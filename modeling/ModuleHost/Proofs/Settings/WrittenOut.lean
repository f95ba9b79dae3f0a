import Mathlib
import ModuleHost.Settings.Reader
import ModuleHost.Settings.Writer

/-!
# Settings written out

A document with every setting says all there is to know: the settings that are read from it are those from which
it was written, whatever the defaults are.

* `Settings.Fits`: all counts are 64-bit words, as they are in settings that were read.
* `Settings.ofEntries?_toEntries`: **settings that are written out are read back as they were.**
* `Settings.fits_of_ofEntries?`: settings that were read can be written out.
-/

namespace ModuleHost.Settings

open Toml (Value)

/-- **Every count of the settings is a 64-bit word.** -/
structure Fits (s : Settings) : Prop where
  shutdownGraceSecs : s.server.shutdownGraceSecs < UInt64.size
  coreThreads : s.workers.coreThreads < UInt64.size
  maxThreads : s.workers.maxThreads < UInt64.size
  maxConcurrentRequests : s.pipeline.maxConcurrentRequests < UInt64.size
  maxHistory : s.logging.file.maxHistory < UInt64.size
  queueSize : s.logging.async.queueSize < UInt64.size
  discardThreshold : s.logging.async.discardThreshold < UInt64.size

/-- **A section says a setting**: there is a value under its name, and it is read as the setting. -/
def Says {α : Type} (fields : Fields) (name : String) (read : Value → Option α) (a : α) : Prop :=
  ∃ v, fields name = some v ∧ read v = some a

theorem Says.orDefault {α : Type} {fields : Fields} {name : String} {read : Value → Option α} {a : α}
    (h : Says fields name read a) (fallback : α) : orDefault fields name fallback read = some a := by
  obtain ⟨v, hv, ha⟩ := h
  unfold Settings.orDefault
  rw [hv]
  exact ha

/-! ### Single values -/

theorem count?_ofCount {n : Nat} (h : n < UInt64.size) : count? (ofCount n) = some n := by
  have hrange : (0 : Int) ≤ n ∧ (n : Int) < UInt64.size := ⟨Int.natCast_nonneg n, by exact_mod_cast h⟩
  simp only [count?, ofCount, hrange, and_self, if_true, Int.toNat_natCast]

theorem port?_ofPort (p : UInt16) : port? (ofPort p) = some p := by
  have hrange : (0 : Int) ≤ p.toNat ∧ (p.toNat : Int) < UInt16.size :=
    ⟨Int.natCast_nonneg _, by exact_mod_cast p.toNat_lt_size⟩
  simp only [port?, ofPort, hrange, and_self, if_true, Int.toNat_natCast, Nat.toUInt16_eq, UInt16.ofNat_toNat]

theorem texts?_ofTexts (xs : List String) : texts? (ofTexts xs) = some xs := by
  show (xs.map Value.text).mapM text? = some xs
  induction xs with
  | nil => rfl
  | cons x xs ih => simp [text?, ih]

theorem mode?_name (m : RunMode) : mode? (.text m.name) = some m := by
  cases m <;> rfl

theorem stream?_name (s : ConsoleStream) : stream? (.text s.name) = some s := by
  cases s <;> rfl

theorem rotation?_name (r : Rotation) : rotation? (.text r.name) = some r := by
  cases r <;> rfl

/-! ### Sections -/

theorem Server.ofValue?_toValue {s : Server} (h : s.shutdownGraceSecs < UInt64.size) :
    Server.ofValue? s.toValue = some s := by
  obtain ⟨f, hf, hmode, hhost, hport, hcheck, hgrace, hserver, hpowered⟩ :
      ∃ f, (∀ names, fieldsOf? names s.toValue = some f) ∧ Says f "mode" mode? s.mode ∧
        Says f "host" text? s.host ∧ Says f "port" port? s.port ∧ Says f "check_port" flag? s.checkPort ∧
        Says f "shutdown_grace_secs" count? s.shutdownGraceSecs ∧ Says f "server_header" text? s.serverHeader ∧
        Says f "powered_by_header" text? s.poweredByHeader :=
    ⟨_, fun _ => rfl, ⟨_, rfl, mode?_name _⟩, ⟨_, rfl, rfl⟩, ⟨_, rfl, port?_ofPort _⟩, ⟨_, rfl, rfl⟩,
      ⟨_, rfl, count?_ofCount h⟩, ⟨_, rfl, rfl⟩, ⟨_, rfl, rfl⟩⟩
  unfold Server.ofValue?
  simp only [hf, hmode.orDefault, hhost.orDefault, hport.orDefault, hcheck.orDefault, hgrace.orDefault,
    hserver.orDefault, hpowered.orDefault, Option.bind_eq_bind, Option.bind_some]
  rfl

theorem Https.ofValue?_toValue (h : Https) :
    Https.ofValue? h.toValue = some h := by
  obtain ⟨f, hf, hon, hhost, hport, hcert, hkey⟩ :
      ∃ f, (∀ names, fieldsOf? names h.toValue = some f) ∧ Says f "enabled" flag? h.enabled ∧
        Says f "host" text? h.host ∧ Says f "port" port? h.port ∧ Says f "cert_path" text? h.certPath ∧
        Says f "key_path" text? h.keyPath :=
    ⟨_, fun _ => rfl, ⟨_, rfl, rfl⟩, ⟨_, rfl, rfl⟩, ⟨_, rfl, port?_ofPort _⟩, ⟨_, rfl, rfl⟩, ⟨_, rfl, rfl⟩⟩
  unfold Https.ofValue?
  simp only [hf, hon.orDefault, hhost.orDefault, hport.orDefault, hcert.orDefault, hkey.orDefault,
    Option.bind_eq_bind, Option.bind_some]
  rfl

theorem Alternate.ofValue?_toValue (a : Alternate) :
    Alternate.ofValue? a.toValue = some a := by
  obtain ⟨f, hf, hon, hhost, hport⟩ :
      ∃ f, (∀ names, fieldsOf? names a.toValue = some f) ∧ Says f "enabled" flag? a.enabled ∧
        Says f "host" text? a.host ∧ Says f "port" port? a.port :=
    ⟨_, fun _ => rfl, ⟨_, rfl, rfl⟩, ⟨_, rfl, rfl⟩, ⟨_, rfl, port?_ofPort _⟩⟩
  unfold Alternate.ofValue?
  simp only [hf, hon.orDefault, hhost.orDefault, hport.orDefault, Option.bind_eq_bind, Option.bind_some]
  rfl

theorem Workers.ofValue?_toValue {w : Workers} (h : w.coreThreads < UInt64.size ∧ w.maxThreads < UInt64.size) :
    Workers.ofValue? w.toValue = some w := by
  obtain ⟨f, hf, hcore, hmax⟩ :
      ∃ f, (∀ names, fieldsOf? names w.toValue = some f) ∧ Says f "core_threads" count? w.coreThreads ∧
        Says f "max_threads" count? w.maxThreads :=
    ⟨_, fun _ => rfl, ⟨_, rfl, count?_ofCount h.1⟩, ⟨_, rfl, count?_ofCount h.2⟩⟩
  unfold Workers.ofValue?
  simp only [hf, hcore.orDefault, hmax.orDefault, Option.bind_eq_bind, Option.bind_some]
  rfl

theorem Pipeline.ofValue?_toValue {p : Pipeline} (h : p.maxConcurrentRequests < UInt64.size) :
    Pipeline.ofValue? p.toValue = some p := by
  obtain ⟨f, hf, hmethods, hmax⟩ :
      ∃ f, (∀ names, fieldsOf? names p.toValue = some f) ∧ Says f "allowed_methods" texts? p.allowedMethods ∧
        Says f "max_concurrent_requests" count? p.maxConcurrentRequests :=
    ⟨_, fun _ => rfl, ⟨_, rfl, texts?_ofTexts _⟩, ⟨_, rfl, count?_ofCount h⟩⟩
  unfold Pipeline.ofValue?
  simp only [hf, hmethods.orDefault, hmax.orDefault, Option.bind_eq_bind, Option.bind_some]
  rfl

theorem Console.ofValue?_toValue (c : Console) :
    Console.ofValue? c.toValue = some c := by
  obtain ⟨f, hf, hroute, hpaths⟩ :
      ∃ f, (∀ names, fieldsOf? names c.toValue = some f) ∧ Says f "route" text? c.route ∧
        Says f "redirect_paths" texts? c.redirectPaths :=
    ⟨_, fun _ => rfl, ⟨_, rfl, rfl⟩, ⟨_, rfl, texts?_ofTexts _⟩⟩
  unfold Console.ofValue?
  simp only [hf, hroute.orDefault, hpaths.orDefault, Option.bind_eq_bind, Option.bind_some]
  rfl

theorem ConsoleOutput.ofValue?_toValue (c : ConsoleOutput) :
    ConsoleOutput.ofValue? c.toValue = some c := by
  obtain ⟨f, hf, htarget, hansi⟩ :
      ∃ f, (∀ names, fieldsOf? names c.toValue = some f) ∧ Says f "target" stream? c.target ∧
        Says f "ansi" flag? c.ansi :=
    ⟨_, fun _ => rfl, ⟨_, rfl, stream?_name _⟩, ⟨_, rfl, rfl⟩⟩
  unfold ConsoleOutput.ofValue?
  simp only [hf, htarget.orDefault, hansi.orDefault, Option.bind_eq_bind, Option.bind_some]
  rfl

theorem FileOutput.ofValue?_toValue {o : FileOutput} (h : o.maxHistory < UInt64.size) :
    FileOutput.ofValue? o.toValue = some o := by
  obtain ⟨f, hf, hpath, hsize, hhistory, hrotation, hflush⟩ :
      ∃ f, (∀ names, fieldsOf? names o.toValue = some f) ∧ Says f "path" text? o.path ∧
        Says f "max_size" text? o.maxSize ∧ Says f "max_history" count? o.maxHistory ∧
        Says f "rotation" rotation? o.rotation ∧ Says f "immediate_flush" flag? o.immediateFlush :=
    ⟨_, fun _ => rfl, ⟨_, rfl, rfl⟩, ⟨_, rfl, rfl⟩, ⟨_, rfl, count?_ofCount h⟩, ⟨_, rfl, rotation?_name _⟩,
      ⟨_, rfl, rfl⟩⟩
  unfold FileOutput.ofValue?
  simp only [hf, hpath.orDefault, hsize.orDefault, hhistory.orDefault, hrotation.orDefault, hflush.orDefault,
    Option.bind_eq_bind, Option.bind_some]
  rfl

theorem AsyncOutput.ofValue?_toValue {a : AsyncOutput}
    (h : a.queueSize < UInt64.size ∧ a.discardThreshold < UInt64.size) :
    AsyncOutput.ofValue? a.toValue = some a := by
  obtain ⟨f, hf, hon, hsize, hthreshold⟩ :
      ∃ f, (∀ names, fieldsOf? names a.toValue = some f) ∧ Says f "enabled" flag? a.enabled ∧
        Says f "queue_size" count? a.queueSize ∧ Says f "discard_threshold" count? a.discardThreshold :=
    ⟨_, fun _ => rfl, ⟨_, rfl, rfl⟩, ⟨_, rfl, count?_ofCount h.1⟩, ⟨_, rfl, count?_ofCount h.2⟩⟩
  unfold AsyncOutput.ofValue?
  simp only [hf, hon.orDefault, hsize.orDefault, hthreshold.orDefault, Option.bind_eq_bind, Option.bind_some]
  rfl

theorem Logger.ofValue?_toValue (l : Logger) : Logger.ofValue? l.toValue = some l := rfl

theorem loggers?_toValue (ls : List Logger) : loggers? (.list (ls.map Logger.toValue)) = some ls := by
  show (ls.map Logger.toValue).mapM Logger.ofValue? = some ls
  induction ls with
  | nil => rfl
  | cons l ls ih => simp [Logger.ofValue?_toValue, ih]

theorem Logging.ofValue?_toValue {l : Logging} (hhistory : l.file.maxHistory < UInt64.size)
    (hqueue : l.async.queueSize < UInt64.size ∧ l.async.discardThreshold < UInt64.size) :
    Logging.ofValue? l.toValue = some l := by
  obtain ⟨f, hf, hlevel, hconsole, hfile, hasync, hloggers⟩ :
      ∃ f, (∀ names, fieldsOf? names l.toValue = some f) ∧ Says f "root_level" text? l.rootLevel ∧
        Says f "console" ConsoleOutput.ofValue? l.console ∧ Says f "file" FileOutput.ofValue? l.file ∧
        Says f "async" AsyncOutput.ofValue? l.async ∧ Says f "loggers" loggers? l.loggers :=
    ⟨_, fun _ => rfl, ⟨_, rfl, rfl⟩, ⟨_, rfl, ConsoleOutput.ofValue?_toValue _⟩,
      ⟨_, rfl, FileOutput.ofValue?_toValue hhistory⟩, ⟨_, rfl, AsyncOutput.ofValue?_toValue hqueue⟩,
      ⟨_, rfl, loggers?_toValue _⟩⟩
  unfold Logging.ofValue?
  simp only [hf, hlevel.orDefault, hconsole.orDefault, hfile.orDefault, hasync.orDefault, hloggers.orDefault,
    Option.bind_eq_bind, Option.bind_some]
  rfl

/-! ### Documents -/

/-- **Settings that are written out are read back as they were.** -/
theorem ofEntries?_toEntries {s : Settings} (h : s.Fits) : ofEntries? s.toEntries = some s := by
  obtain ⟨f, hf, hserver, hhttps, halternate, hworkers, hpipeline, hconsole, hlogging, hmodules, hmetrics⟩ :
      ∃ f, Toml.entry? s.toEntries = f ∧ Says f "server" Server.ofValue? s.server ∧
        Says f "https" Https.ofValue? s.https ∧ Says f "alt" Alternate.ofValue? s.alternate ∧
        Says f "workers" Workers.ofValue? s.workers ∧ Says f "pipeline" Pipeline.ofValue? s.pipeline ∧
        Says f "console" Console.ofValue? s.console ∧ Says f "logging" Logging.ofValue? s.logging ∧
        Says f "modules" Modules.ofValue? s.modules ∧
        Says f "observability" Observability.ofValue? s.observability :=
    ⟨_, rfl, ⟨_, rfl, Server.ofValue?_toValue h.shutdownGraceSecs⟩, ⟨_, rfl, Https.ofValue?_toValue _⟩,
      ⟨_, rfl, Alternate.ofValue?_toValue _⟩, ⟨_, rfl, Workers.ofValue?_toValue ⟨h.coreThreads, h.maxThreads⟩⟩,
      ⟨_, rfl, Pipeline.ofValue?_toValue h.maxConcurrentRequests⟩, ⟨_, rfl, Console.ofValue?_toValue _⟩,
      ⟨_, rfl, Logging.ofValue?_toValue h.maxHistory ⟨h.queueSize, h.discardThreshold⟩⟩, ⟨_, rfl, rfl⟩,
      ⟨_, rfl, rfl⟩⟩
  unfold ofEntries?
  simp only [hf, hserver.orDefault, hhttps.orDefault, halternate.orDefault, hworkers.orDefault,
    hpipeline.orDefault, hconsole.orDefault, hlogging.orDefault, hmodules.orDefault, hmetrics.orDefault,
    Option.bind_eq_bind, Option.bind_some]
  rfl

/-- A setting that was read, or kept its default, has what both have. -/
theorem of_orDefault {α : Type} {P : α → Prop} {fields : Fields} {name : String} {fallback a : α}
    {read : Value → Option α} (h : orDefault fields name fallback read = some a) (hfallback : P fallback)
    (hread : ∀ v a, read v = some a → P a) : P a := by
  unfold orDefault at h
  split at h
  · cases h
    exact hfallback
  · exact hread _ _ h

theorem lt_of_count? {v : Value} {n : Nat} (h : count? v = some n) : n < UInt64.size := by
  unfold count? at h
  split at h
  · split at h
    · rename_i hrange
      cases h
      have hlt := hrange.2
      omega
    · cases h
  · cases h

theorem lt_of_orDefault {fields : Fields} {name : String} {fallback n : Nat}
    (h : orDefault fields name fallback count? = some n) (hfallback : fallback < UInt64.size) : n < UInt64.size :=
  of_orDefault (P := fun n => n < UInt64.size) h hfallback fun _ _ => lt_of_count?

theorem Server.lt_of_ofValue? {v : Value} {s : Server} (h : Server.ofValue? v = some s) :
    s.shutdownGraceSecs < UInt64.size := by
  simp only [Server.ofValue?, Option.bind_eq_bind, Option.bind_eq_some_iff] at h
  obtain ⟨f, -, mode, -, host, -, port, -, check, -, grace, hgrace, server, -, powered, -, hs⟩ := h
  cases hs
  exact lt_of_orDefault hgrace (by decide)

theorem Workers.lt_of_ofValue? {v : Value} {w : Workers} (h : Workers.ofValue? v = some w) :
    w.coreThreads < UInt64.size ∧ w.maxThreads < UInt64.size := by
  simp only [Workers.ofValue?, Option.bind_eq_bind, Option.bind_eq_some_iff] at h
  obtain ⟨f, -, core, hcore, max, hmax, hw⟩ := h
  cases hw
  exact ⟨lt_of_orDefault hcore (by decide), lt_of_orDefault hmax (by decide)⟩

theorem Pipeline.lt_of_ofValue? {v : Value} {p : Pipeline} (h : Pipeline.ofValue? v = some p) :
    p.maxConcurrentRequests < UInt64.size := by
  simp only [Pipeline.ofValue?, Option.bind_eq_bind, Option.bind_eq_some_iff] at h
  obtain ⟨f, -, methods, -, max, hmax, hp⟩ := h
  cases hp
  exact lt_of_orDefault hmax (by decide)

theorem FileOutput.lt_of_ofValue? {v : Value} {o : FileOutput} (h : FileOutput.ofValue? v = some o) :
    o.maxHistory < UInt64.size := by
  simp only [FileOutput.ofValue?, Option.bind_eq_bind, Option.bind_eq_some_iff] at h
  obtain ⟨f, -, path, -, size, -, history, hhistory, rotation, -, flush, -, ho⟩ := h
  cases ho
  exact lt_of_orDefault hhistory (by decide)

theorem AsyncOutput.lt_of_ofValue? {v : Value} {a : AsyncOutput} (h : AsyncOutput.ofValue? v = some a) :
    a.queueSize < UInt64.size ∧ a.discardThreshold < UInt64.size := by
  simp only [AsyncOutput.ofValue?, Option.bind_eq_bind, Option.bind_eq_some_iff] at h
  obtain ⟨f, -, on, -, size, hsize, threshold, hthreshold, ha⟩ := h
  cases ha
  exact ⟨lt_of_orDefault hsize (by decide), lt_of_orDefault hthreshold (by decide)⟩

theorem Logging.lt_of_ofValue? {v : Value} {l : Logging} (h : Logging.ofValue? v = some l) :
    l.file.maxHistory < UInt64.size ∧ l.async.queueSize < UInt64.size ∧
      l.async.discardThreshold < UInt64.size := by
  simp only [Logging.ofValue?, Option.bind_eq_bind, Option.bind_eq_some_iff] at h
  obtain ⟨f, -, level, -, console, -, file, hfile, async, hasync, loggers, -, hl⟩ := h
  cases hl
  have hhistory := of_orDefault (P := fun o : FileOutput => o.maxHistory < UInt64.size) hfile (by decide)
    fun _ _ => FileOutput.lt_of_ofValue?
  exact ⟨hhistory, of_orDefault
    (P := fun a : AsyncOutput => a.queueSize < UInt64.size ∧ a.discardThreshold < UInt64.size) hasync (by decide)
    fun _ _ => AsyncOutput.lt_of_ofValue?⟩

/-- **Settings that were read can be written out.** -/
theorem fits_of_ofEntries? {entries : List (String × Value)} {s : Settings} (h : ofEntries? entries = some s) :
    s.Fits := by
  simp only [ofEntries?, Option.bind_eq_bind, Option.bind_eq_some_iff] at h
  obtain ⟨server, hserver, https, -, alternate, -, workers, hworkers, pipeline, hpipeline, console, -, logging,
    hlogging, modules, -, metrics, -, hs⟩ := h
  cases hs
  have hthreads := of_orDefault
    (P := fun w : Workers => w.coreThreads < UInt64.size ∧ w.maxThreads < UInt64.size) hworkers (by decide)
    fun _ _ => Workers.lt_of_ofValue?
  have hcounts := of_orDefault
    (P := fun l : Logging => l.file.maxHistory < UInt64.size ∧ l.async.queueSize < UInt64.size ∧
      l.async.discardThreshold < UInt64.size) hlogging (by decide) fun _ _ => Logging.lt_of_ofValue?
  exact
    { shutdownGraceSecs := of_orDefault (P := fun s : Server => s.shutdownGraceSecs < UInt64.size) hserver
        (by decide) fun _ _ => Server.lt_of_ofValue?
      coreThreads := hthreads.1
      maxThreads := hthreads.2
      maxConcurrentRequests := of_orDefault (P := fun p : Pipeline => p.maxConcurrentRequests < UInt64.size)
        hpipeline (by decide) fun _ _ => Pipeline.lt_of_ofValue?
      maxHistory := hcounts.1
      queueSize := hcounts.2.1
      discardThreshold := hcounts.2.2 }

/-- Nothing is lost where a document is read and written out again. -/
theorem ofEntries?_toEntries_of_read {entries : List (String × Value)} {s : Settings}
    (h : ofEntries? entries = some s) : ofEntries? s.toEntries = some s :=
  ofEntries?_toEntries (fits_of_ofEntries? h)

end ModuleHost.Settings
