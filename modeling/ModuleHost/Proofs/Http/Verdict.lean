import Mathlib
import ModuleHost.Http.Pipeline
import ModuleHost.Proofs.Registry.Frame

/-!
# What becomes of a request

The stages of the pipeline come to one verdict about a request, which can be read off the settings, the gate and
the limiter: a stage refuses it, it is led to the console, or it is passed on to whatever the pipeline was put
around.

* `Judged`: the verdict, as the settings have it. `judged_iff`: there is one and only one.
* `Verdict.answer?`: what the pipeline answers by itself. `NamedFor`: what it makes of an answer of the base.
* `Handled`: **an answer of the pipeline itself leaves gate and limiter as they were**; one that waits stays
  counted.
* `SetBy.handled`: the pipeline does what the verdict says, over any base.
-/

namespace ModuleHost.Http

/-- **What becomes of a request.** -/
inductive Verdict where
  | refused (st : Stage)
  /-- Led to the console. -/
  | redirected
  /-- Passed on to the base. -/
  | passed
  deriving DecidableEq

/-! ### Methods and paths -/

namespace AllowedMethods

theorem mem_foldl_addName {m : Method} (names : List String) (ms : List Method) :
    m ∈ names.foldl addName ms ↔ m ∈ ms ∨ ∃ name ∈ names, ofName? name = some m := by
  induction names generalizing ms with
  | nil => simp
  | cons name names ih =>
    have hone : m ∈ addName ms name ↔ m ∈ ms ∨ ofName? name = some m := by
      unfold addName
      cases hm : ofName? name with
      | none => simp
      | some m' =>
        by_cases hknown : m' ∈ ms
        · simp only [hknown, if_true, Option.some.injEq]
          constructor
          · exact Or.inl
          · rintro (h | rfl)
            · exact h
            · exact hknown
        · simp [hknown, eq_comm]
    rw [List.foldl_cons, ih, hone]
    simp [or_assoc]

/-- **The host answers the methods that its settings name.** -/
theorem allows_ofNames_iff {names : List String} {m : Method} :
    (ofNames names).allows m = true ↔ ∃ name ∈ names, ofName? name = some m := by
  unfold allows ofNames
  rw [decide_eq_true_iff, mem_foldl_addName]
  simp

theorem nodup_foldl_addName (names : List String) {ms : List Method} (hms : ms.Nodup) :
    (names.foldl addName ms).Nodup := by
  induction names generalizing ms with
  | nil => exact hms
  | cons name names ih =>
    refine ih ?_
    unfold addName
    split
    · split
      · exact hms
      · rename_i m _ hnew
        rw [← List.concat_eq_append]
        exact hms.concat hnew
    · exact hms

/-- **The text of the header names the methods of the settings**, each once. -/
theorem exists_headerText_ofNames (names : List String) :
    ∃ ms : List Method, ms.Nodup ∧ (∀ m, m ∈ ms ↔ ∃ name ∈ names, ofName? name = some m) ∧
      (ofNames names).headerText = String.intercalate ", " (ms.map (·.text)) := by
  refine ⟨(ofNames names).methods, nodup_foldl_addName names List.nodup_nil, fun m => ?_, rfl⟩
  rw [← allows_ofNames_iff, allows, decide_eq_true_iff]

end AllowedMethods

/-- **The same path up to slashes at its end.** -/
def SamePath (a b : String) : Prop :=
  ∃ (stem : List Char) (i j : Nat), a.toList = stem ++ List.replicate i '/' ∧
    b.toList = stem ++ List.replicate j '/'

theorem toList_withoutEndSlashes (path : String) :
    (withoutEndSlashes path).toList = path.toList.rdropWhile (· == '/') :=
  String.toList_ofList

/-- A path is what it is without the slashes at its end, and then those. -/
theorem exists_endSlashes (path : String) :
    ∃ i, path.toList = (withoutEndSlashes path).toList ++ List.replicate i '/' := by
  refine ⟨(path.toList.rtakeWhile (· == '/')).length, ?_⟩
  have hslashes : path.toList.rtakeWhile (· == '/') =
      List.replicate (path.toList.rtakeWhile (· == '/')).length '/' :=
    List.eq_replicate_of_mem fun c hc => by simpa using List.mem_rtakeWhile_imp hc
  rw [toList_withoutEndSlashes, ← hslashes, List.rdropWhile_append_rtakeWhile]

theorem rdropWhile_append_slashes (stem : List Char) (i : Nat) :
    (stem ++ List.replicate i '/').rdropWhile (· == '/') = stem.rdropWhile (· == '/') := by
  induction i with
  | zero => simp
  | succ i ih =>
    rw [List.replicate_succ', ← List.append_assoc, List.rdropWhile_concat_pos _ _ _ (by simp), ih]

theorem samePath_iff {a b : String} : SamePath a b ↔ withoutEndSlashes a = withoutEndSlashes b := by
  constructor
  · rintro ⟨stem, i, j, ha, hb⟩
    refine String.toList_inj.1 ?_
    rw [toList_withoutEndSlashes, toList_withoutEndSlashes, ha, hb, rdropWhile_append_slashes,
      rdropWhile_append_slashes]
  · intro h
    obtain ⟨i, ha⟩ := exists_endSlashes a
    obtain ⟨j, hb⟩ := exists_endSlashes b
    exact ⟨_, i, j, ha, h ▸ hb⟩

/-! ### The verdict -/

/-- The settings name the method, in capitals or not and with blanks around it or not. -/
def Names (s : Settings) (m : Method) : Prop :=
  ∃ name ∈ s.pipeline.allowedMethods, AllowedMethods.ofName? name = some m

/-- The settings lead the path to the console, and the route of the console can be sent in a header. -/
def LeadsToConsole (s : Settings) (path : String) : Prop :=
  isHeaderValue s.console.route = true ∧ ∃ p ∈ s.console.redirectPaths, SamePath p path

/-- **The verdict about a request**, when so many requests are past the limiter and the gate is closing or not. -/
inductive Judged (s : Settings) (closing : Bool) (taken : Nat) (r : Request) : Verdict → Prop where
  | shutdown : closing = true → Judged s closing taken r (.refused .shutdown)
  | limit : closing = false → s.pipeline.maxConcurrentRequests ≤ taken → Judged s closing taken r (.refused .limit)
  | method : closing = false → taken < s.pipeline.maxConcurrentRequests → ¬Names s r.method →
      Judged s closing taken r (.refused .method)
  | redirected : closing = false → taken < s.pipeline.maxConcurrentRequests → Names s r.method →
      LeadsToConsole s r.target.path → Judged s closing taken r .redirected
  | passed : closing = false → taken < s.pipeline.maxConcurrentRequests → Names s r.method →
      ¬LeadsToConsole s r.target.path → Judged s closing taken r .passed

namespace Pipeline

variable {s : Settings} {mode : RunMode} {p : Pipeline} {r : Request} {b : Logbook} {base : Base} {site : Site}

/-- **A pipeline that is set up as the settings say**, with any gate, and any number of requests past the
limiter. -/
structure SetBy (s : Settings) (mode : RunMode) (p : Pipeline) : Prop where
  max : p.limiter.max = s.pipeline.maxConcurrentRequests
  allowed : p.allowed = .ofNames s.pipeline.allowedMethods
  redirect : p.redirect = ConsoleRedirect.ofSettings? s.console
  siteHeaders : p.siteHeaders = siteHeadersOf mode s.server

theorem setBy_ofSettings (site : Site) (s : Settings) (mode : RunMode) (gate : Gate) (taken : Nat) :
    SetBy s mode { ofSettings site s mode with
      gate, limiter := { max := s.pipeline.maxConcurrentRequests, inFlight := taken } } :=
  ⟨rfl, rfl, rfl, rfl⟩

/-- The verdict that the stages come to, one after another. -/
def judge (p : Pipeline) (r : Request) : Verdict :=
  if p.gate.closing then .refused .shutdown
  else if p.limiter.max ≤ p.limiter.inFlight then .refused .limit
  else if !p.allowed.allows r.method then .refused .method
  else if (p.redirect? r).isSome then .redirected
  else .passed

theorem SetBy.allows_iff (h : p.SetBy s mode) (m : Method) : p.allowed.allows m = true ↔ Names s m := by
  rw [h.allowed]
  exact AllowedMethods.allows_ofNames_iff

/-- **The redirect goes to the console route**, and takes the paths that lead there. -/
theorem SetBy.redirect?_eq_some_iff (h : p.SetBy s mode) {c : ConsoleRedirect} :
    p.redirect? r = some c ↔ LeadsToConsole s r.target.path ∧ ConsoleRedirect.ofSettings? s.console = some c := by
  have hcovers {c : ConsoleRedirect} (hc : ConsoleRedirect.ofSettings? s.console = some c) :
      c.covers r.target.path = true ↔ ∃ path ∈ s.console.redirectPaths, SamePath path r.target.path := by
    unfold ConsoleRedirect.ofSettings? at hc
    split at hc
    · rw [← Option.some.inj hc]
      unfold ConsoleRedirect.covers
      simp [samePath_iff]
    · cases hc
  unfold redirect? LeadsToConsole
  rw [h.redirect, Option.filter_eq_some_iff]
  constructor
  · rintro ⟨hc, hpath⟩
    refine ⟨⟨?_, (hcovers hc).1 hpath⟩, hc⟩
    unfold ConsoleRedirect.ofSettings? at hc
    split at hc
    · assumption
    · cases hc
  · rintro ⟨⟨-, hpath⟩, hc⟩
    exact ⟨hc, (hcovers hc).2 hpath⟩

theorem SetBy.isSome_redirect?_iff (h : p.SetBy s mode) :
    (p.redirect? r).isSome = true ↔ LeadsToConsole s r.target.path := by
  rw [Option.isSome_iff_exists]
  constructor
  · rintro ⟨c, hc⟩
    exact (h.redirect?_eq_some_iff.1 hc).1
  · intro hlead
    have hroute : ConsoleRedirect.ofSettings? s.console =
        some ⟨s.console.route, s.console.redirectPaths.map withoutEndSlashes⟩ := if_pos hlead.1
    exact ⟨_, h.redirect?_eq_some_iff.2 ⟨hlead, hroute⟩⟩

/-- **There is one verdict**, and the stages come to it. -/
theorem SetBy.judged_iff (h : p.SetBy s mode) {v : Verdict} :
    Judged s p.gate.closing p.limiter.inFlight r v ↔ v = p.judge r := by
  have hmethod := h.allows_iff r.method
  have hpath := h.isSome_redirect?_iff (r := r)
  unfold judge
  rw [h.max]
  constructor
  · rintro (hc | ⟨hc, hl⟩ | ⟨hc, hl, hm⟩ | ⟨hc, hl, hm, hr⟩ | ⟨hc, hl, hm, hr⟩)
    · simp [hc]
    · simp [hc, hl]
    · simp [hc, Nat.not_le.2 hl, mt hmethod.1 hm]
    · simp [hc, Nat.not_le.2 hl, hmethod.2 hm, hpath.2 hr]
    · have hpass := mt hpath.1 hr
      simp only [Option.isSome_iff_ne_none, ne_eq, not_not] at hpass
      simp [hc, Nat.not_le.2 hl, hmethod.2 hm, hpass]
  · rintro rfl
    split
    · exact .shutdown ‹_›
    rename_i hc
    have hc := eq_false_of_ne_true hc
    split
    · exact .limit hc ‹_›
    rename_i hl
    have hl := Nat.not_le.1 hl
    split
    · rename_i hm
      exact .method hc hl fun hnamed => by simp [hmethod.2 hnamed] at hm
    rename_i hm
    have hm : Names s r.method := hmethod.1 (by simpa using hm)
    split
    · exact .redirected hc hl hm (hpath.1 ‹_›)
    · rename_i hr
      exact .passed hc hl hm fun hlead => hr (hpath.2 hlead)

end Pipeline

/-! ### The answer -/

/-- What the pipeline answers by itself. -/
def Verdict.answer? (s : Settings) : Verdict → Option Response
  | .refused .shutdown => some { status := 503, body := "Server is shutting down" }
  | .refused .limit => some { status := 503, body := "Too many concurrent requests" }
  | .refused .method => some {
      status := 405
      headers := Table.empty.insert "allow" (AllowedMethods.ofNames s.pipeline.allowedMethods).headerText
      body := "Method not allowed" }
  | .redirected => some { status := 302, headers := Table.empty.insert "location" s.console.route }
  | .passed => none

/-- The value that names the host in a header of that name. Only in development there is one, if it can be
sent. -/
def namingValue? (s : Settings.Server) (mode : RunMode) (name : String) : Option String :=
  if mode = .dev ∧ name = "server" ∧ isHeaderValue s.serverHeader then some s.serverHeader
  else if mode = .dev ∧ name = "x-powered-by" ∧ isHeaderValue s.poweredByHeader then some s.poweredByHeader
  else none

/-- **An answer of the base with the headers that name the host**, in the place of what it has there. -/
structure NamedFor (s : Settings.Server) (mode : RunMode) (a a' : Response) : Prop where
  status : a'.status = a.status
  body : a'.body = a.body
  headers : ∀ name, a'.headers.get? name = (namingValue? s mode name).or (a.headers.get? name)

theorem get?_withHeader (a : Response) (name value other : String) :
    (a.withHeader name value).headers.get? other = if other = name then some value else a.headers.get? other := by
  unfold Response.withHeader
  rw [Table.get?_insert]
  simp only [eq_comm]

theorem namedFor_withHeaders (s : Settings.Server) (mode : RunMode) (a : Response) :
    NamedFor s mode a (a.withHeaders (Pipeline.siteHeadersOf mode s)) := by
  unfold Pipeline.siteHeadersOf Pipeline.namingHeaders
  cases mode with
  | prod => exact ⟨rfl, rfl, fun name => by simp [namingValue?, Response.withHeaders]⟩
  | dev =>
    -- each of the two values can be sent or cannot
    cases hserver : isHeaderValue s.serverHeader <;> cases hpowered : isHeaderValue s.poweredByHeader <;>
      simp only [List.filter, hserver, hpowered] <;> refine ⟨rfl, rfl, fun name => ?_⟩ <;>
      simp only [Response.withHeaders, List.foldl, get?_withHeader, namingValue?, hserver, hpowered] <;>
      by_cases hs : name = "server" <;> by_cases hp : name = "x-powered-by" <;> simp_all

/-! ### What is counted -/

/-- How many requests a stage refused. -/
def rejections (b : Logbook) (st : Stage) : Nat :=
  (Table.find b.machine.meters.rejected st.name).getD 0

theorem Stage.name_injective : Function.Injective Stage.name := by
  intro st st' h
  revert h
  cases st <;> cases st' <;> decide

theorem rejections_emit (b : Logbook) (e : LogEvent) (st : Stage) :
    rejections (b.emit e) st = rejections b st := by
  unfold rejections
  rw [(Logbook.recorded_emit b e).meters]

namespace Pipeline

variable {s : Settings} {mode : RunMode} {p : Pipeline} {r : Request} {b : Logbook} {base : Base} {site : Site}

/-- A refusal is counted for its stage, and for no other. -/
theorem rejections_refuse (p : Pipeline) (st st' : Stage) (r : Request) (b : Logbook) :
    rejections (p.refuse st r b).2 st' = rejections b st' + if st' = st then 1 else 0 := by
  have hlabel : (st.name = st'.name) ↔ st' = st := Stage.name_injective.eq_iff.trans eq_comm
  show (Table.find (bumpCount st.name _) st'.name).getD 0 = _
  rw [find_bumpCount]
  simp only [hlabel]
  exact congrArg (· + _) (rejections_emit b _ st')

/-- How the host looks to the base: the request is let in, and shown. -/
def entered (p : Pipeline) (b : Logbook) : Logbook :=
  meter { p.gate with inFlight := p.gate.inFlight + 1 } b

/-- The pipeline while a request waits inside. -/
def withOneMore (p : Pipeline) : Pipeline :=
  { p with
    gate := { p.gate with inFlight := p.gate.inFlight + 1 }
    limiter := { p.limiter with inFlight := p.limiter.inFlight + 1 } }

/-- **What the pipeline makes of a request**, by the verdict about it. -/
inductive Handled (s : Settings) (mode : RunMode) (base : Base) (p : Pipeline) (r : Request) (b : Logbook) :
    Verdict → Reply → Pipeline → Logbook → Prop where
  /-- It answers by itself. Nobody is inside afterwards who was not before, and a refusal is counted. -/
  | byItself {v : Verdict} {a : Response} {b' : Logbook} : v.answer? s = some a →
      (∀ st, rejections b' st = rejections b st + if v = .refused st then 1 else 0) →
      Handled s mode base p r b v (.answered (a.sealed r.method (base.allow? r))) p b'
  /-- The base answers. -/
  | answered {a a' : Response} {b₁ b' : Logbook} : base.answer r (p.entered b) = (.answered a, b₁) →
      NamedFor s.server mode a a' → (∀ st, rejections b' st = rejections b₁ st) →
      Handled s mode base p r b .passed (.answered (a'.sealed r.method (base.allow? r))) p b'
  /-- The base lets the request wait. -/
  | waits {a a' : Response} {b' : Logbook} : base.answer r (p.entered b) = (.held a, b') →
      NamedFor s.server mode a a' →
      Handled s mode base p r b .passed (.held (a'.sealed r.method (base.allow? r))) p.withOneMore b'

/-! ### What each stage does -/

theorem enterGate_of_closing {g : Gate} (h : g.closing = true) (b : Logbook) : enterGate g b = (false, g, b) := by
  obtain ⟨n, closing⟩ := g
  cases h
  rfl

theorem enterGate_of_open {g : Gate} (h : g.closing = false) (b : Logbook) :
    enterGate g b = (true, { g with inFlight := g.inFlight + 1 },
      meter { g with inFlight := g.inFlight + 1 } b) := by
  obtain ⟨n, closing⟩ := g
  cases h
  rfl

theorem acquire_of_full {l : Limiter} (h : l.max ≤ l.inFlight) : l.acquire = (false, l) :=
  if_pos h

theorem acquire_of_free {l : Limiter} (h : l.inFlight < l.max) :
    l.acquire = (true, { l with inFlight := l.inFlight + 1 }) :=
  if_neg (Nat.not_le.2 h)

/-- A closing gate lets nobody in. -/
theorem handleOver_of_closing (hc : p.gate.closing = true) :
    handleOver base p r b =
      (sealReply base r (.answered (p.refusal .shutdown)), p, (p.refuse .shutdown r b).2) := by
  unfold handleOver
  rw [enterGate_of_closing hc]
  rfl

/-- Without a free slot a request is let in and turned away. -/
theorem handleOver_of_full (hc : p.gate.closing = false) (hl : p.limiter.max ≤ p.limiter.inFlight) :
    handleOver base p r b =
      (sealReply base r (.answered (p.refusal .limit)), p, meter p.gate (p.refuse .limit r (p.entered b)).2) := by
  unfold handleOver gatedReply
  rw [enterGate_of_open hc]
  simp only [acquire_of_full hl]
  rfl

/-- **With a free slot** it depends on what comes next. -/
theorem handleOver_of_free (hc : p.gate.closing = false) (hl : p.limiter.inFlight < p.limiter.max) :
    handleOver base p r b =
      match p.withOneMore.innerReply base r (p.entered b) with
      | (.answered a, b) => (sealReply base r (.answered a), p, meter p.gate b)
      | (.held a, b) => (sealReply base r (.held a), p.withOneMore, b) := by
  rcases hinner : p.withOneMore.innerReply base r (p.entered b) with ⟨_ | _, b'⟩
  all_goals
    unfold withOneMore entered at hinner
    unfold handleOver gatedReply
    rw [enterGate_of_open hc]
    simp only [acquire_of_free hl, hinner]
    rfl

theorem innerReply_of_refused (hm : p.allowed.allows r.method = false) :
    p.innerReply base r b = (.answered (p.refusal .method), (p.refuse .method r b).2) := by
  unfold innerReply
  rw [hm]
  rfl

theorem innerReply_of_redirect {c : ConsoleRedirect} (hm : p.allowed.allows r.method = true)
    (hr : p.redirect? r = some c) (base : Base) (b : Logbook) :
    ∃ e, p.innerReply base r b = (.answered (redirection c.location), b.emit e) := by
  unfold innerReply
  rw [hm, hr]
  exact ⟨_, rfl⟩

theorem innerReply_of_none (hm : p.allowed.allows r.method = true) (hr : p.redirect? r = none) :
    p.innerReply base r b = (p.nameHost (base.answer r b).1, (base.answer r b).2) := by
  unfold innerReply
  rw [hm, hr]
  rfl

theorem SetBy.answer?_refused (h : p.SetBy s mode) (st : Stage) :
    (Verdict.refused st).answer? s = some (p.refusal st) := by
  cases st with
  | method => simp only [Verdict.answer?, refusal, h.allowed]
  | _ => rfl

theorem SetBy.answer?_redirected {c : ConsoleRedirect} (h : p.SetBy s mode) (hr : p.redirect? r = some c) :
    Verdict.redirected.answer? s = some (redirection c.location) := by
  obtain ⟨⟨hroute, -⟩, hc⟩ := h.redirect?_eq_some_iff.1 hr
  unfold ConsoleRedirect.ofSettings? at hc
  rw [if_pos hroute] at hc
  rw [← Option.some.inj hc]
  rfl

/-- **The pipeline does what the verdict says.** -/
theorem SetBy.handled (h : p.SetBy s mode) (base : Base) (r : Request) (b : Logbook) :
    Handled s mode base p r b (p.judge r) (handleOver base p r b).1 (handleOver base p r b).2.1
      (handleOver base p r b).2.2 := by
  have hrefused (b : Logbook) (st st' : Stage) : rejections (p.refuse st r b).2 st' =
      rejections b st' + if Verdict.refused st = .refused st' then 1 else 0 := by
    rw [rejections_refuse]
    simp only [Verdict.refused.injEq, eq_comm]
  unfold judge
  cases hc : p.gate.closing with
  | true =>
    rw [handleOver_of_closing hc, if_pos rfl]
    exact .byItself (h.answer?_refused .shutdown) (hrefused b .shutdown)
  | false =>
    rw [if_neg Bool.false_ne_true]
    by_cases hl : p.limiter.max ≤ p.limiter.inFlight
    · rw [handleOver_of_full hc hl, if_pos hl]
      exact .byItself (h.answer?_refused .limit) (hrefused (p.entered b) .limit)
    rw [if_neg hl, handleOver_of_free hc (Nat.not_le.1 hl)]
    have hallows : p.withOneMore.allowed.allows r.method = p.allowed.allows r.method := rfl
    have hredirect : p.withOneMore.redirect? r = p.redirect? r := rfl
    cases hm : p.allowed.allows r.method with
    | false =>
      rw [innerReply_of_refused (hallows.trans hm)]
      exact .byItself (h.answer?_refused .method) (hrefused (p.entered b) .method)
    | true =>
      cases hr : p.redirect? r with
      | some c =>
        obtain ⟨e, he⟩ := innerReply_of_redirect (hallows.trans hm) (hredirect.trans hr) base (p.entered b)
        rw [he]
        refine .byItself (h.answer?_redirected hr) fun st => ?_
        exact rejections_emit (p.entered b) e st
      | none =>
        rw [innerReply_of_none (hallows.trans hm) (hredirect.trans hr)]
        have hnamed (a : Response) : NamedFor s.server mode a (a.withHeaders p.siteHeaders) := by
          rw [h.siteHeaders]
          exact namedFor_withHeaders s.server mode a
        rcases hbase : base.answer r (p.entered b) with ⟨a | a, b'⟩
        · exact .answered hbase (hnamed a) fun _ => rfl
        · exact .waits hbase (hnamed a)

end Pipeline

end ModuleHost.Http
