import Mathlib
import ModuleHost.Proofs.Http.Verdict
import ModuleHost.Proofs.Settings.InEffect

/-!
# Where the redirect leads

The redirect sends clients to the console route as it stands in the settings. Whoever is sent there asks for the
path of that route, which is its part before a query or a fragment, and the redirect looks at this path again.

* `askedPath`: the path of a request for a route. `Target.path_of_parse?`: it is what such a request reads.
* `LeadsBack`: the console route leads to the console once more.
* `Pipeline.journey`: **a client goes where it is led**, from one answer to the next.
* `Pipeline.redirect_reaches_console`: what the redirect does under checked settings, and where it ends.
-/

namespace ModuleHost

namespace Settings

/-- **Every path of a checked console section starts at the root.** -/
theorem Console.problems_eq_nil_iff (c : Console) :
    c.problems = [] ↔ isRooted c.route = true ∧ ∀ path ∈ c.redirectPaths, isRooted path = true := by
  unfold Console.problems
  simp [reportIf_eq_nil_iff]

theorem Valid.rooted_route {s : Settings} (hs : s.Valid) : isRooted s.console.route = true := by
  unfold Valid problems at hs
  simp only [List.append_eq_nil_iff, Console.problems_eq_nil_iff] at hs
  obtain ⟨⟨⟨-, hroute, -⟩, -⟩, -⟩ := hs
  exact hroute

end Settings

namespace Http

/-! ### What a client asks for -/

/-- The character stands in a path, where a query or a fragment would end it. -/
def staysInPath (c : Char) : Bool :=
  c != '?' && c != '#'

/-- **The path of a request for a route**: what comes before a query or a fragment. -/
def askedPath (route : String) : String :=
  String.ofList (route.toList.takeWhile staysInPath)

/-- **The console route leads to the console once more.** -/
def LeadsBack (s : Settings) : Prop :=
  ∃ path ∈ s.console.redirectPaths, SamePath path (askedPath s.console.route)

instance (a b : String) : Decidable (SamePath a b) :=
  decidable_of_iff _ samePath_iff.symm

instance (s : Settings) : Decidable (LeadsBack s) :=
  inferInstanceAs (Decidable (∃ path ∈ s.console.redirectPaths, SamePath path (askedPath s.console.route)))

theorem Target.path_of_pathAndQuery? {cs path : List Char} {query? : Option (List Char)}
    (h : pathAndQuery? cs = some (path, query?)) : path = cs.takeWhile staysInPath := by
  obtain ⟨-, h⟩ := Option.ite_none_right_eq_some.1 h
  exact (congrArg Prod.fst (Option.some.inj h)).symm

/-- **A request for a route that starts at the root reads its path**, whatever follows in the route. -/
theorem Target.path_of_parse? {route : String} {target : Target} (hroot : Settings.isRooted route = true)
    (h : parse? route = some target) : target.path = askedPath route := by
  obtain ⟨cs, hcs⟩ : ∃ cs, route.toList = '/' :: cs := by
    unfold Settings.isRooted at hroot
    cases hchars : route.toList with
    | nil => simp [hchars] at hroot
    | cons c cs =>
      obtain rfl : c = '/' := by simpa [hchars] using hroot
      exact ⟨cs, rfl⟩
  unfold parse? at h
  split at h
  · cases h
  · simp only [hcs] at h
    obtain ⟨⟨path, query?⟩, hread, rfl⟩ := Option.map_eq_some_iff.1 h
    have hpath := path_of_pathAndQuery? hread
    -- the slash stays, so the path is not empty and no other one takes its place
    have hslash : path = '/' :: cs.takeWhile staysInPath := by
      rw [hpath]
      exact List.takeWhile_cons_of_pos (by decide)
    unfold ofParts askedPath
    rw [hcs, ← hpath, hslash]
    rfl

namespace Response

theorem status_withAllow (a : Response) (allow : Option String) : (a.withAllow allow).status = a.status := by
  cases allow with
  | none => rfl
  | some value =>
    unfold withAllow
    dsimp only
    split <;> rfl

theorem get?_withAllow (a : Response) (allow : Option String) {name : String} (hname : name ≠ "allow") :
    (a.withAllow allow).headers.get? name = a.headers.get? name := by
  cases allow with
  | none => rfl
  | some value =>
    unfold withAllow
    dsimp only
    split
    · rfl
    · rw [get?_withHeader, if_neg hname]

theorem status_sealed (a : Response) (m : Method) (allow : Option String) :
    (a.sealed m allow).status = a.status := by
  unfold sealed
  dsimp only
  split <;> exact status_withAllow a allow

/-- **What leaves the host has the headers it was given**, but for the two that the host sees to. -/
theorem get?_sealed (a : Response) (m : Method) (allow : Option String) {name : String} (hallow : name ≠ "allow")
    (hlength : name ≠ "content-length") : (a.sealed m allow).headers.get? name = a.headers.get? name := by
  have hgiven (value : String) :
      ((a.withAllow allow).withHeader "content-length" value).headers.get? name = a.headers.get? name := by
    rw [get?_withHeader, if_neg hlength, get?_withAllow a allow hallow]
  unfold sealed
  dsimp only
  split <;> exact hgiven _

end Response

/-- **A client goes on to a location** with the method that it has. There is no such request if the location
cannot be asked for. -/
def Request.goTo? (r : Request) (location : String) : Option Request :=
  (Target.parse? location).map fun target => { r with target }

namespace Pipeline

variable {s : Settings} {mode : RunMode} {p : Pipeline} {ps : List Pipeline} {r r' : Request} {c : ConsoleRedirect}

/-- What building reports about a console route that cannot be sent. -/
def redirectDisabled (route : String) : LogEvent :=
  ⟨.warn, "plughost::http::pipeline", "Invalid console route, redirect disabled", [("route", .shown route)]⟩

/-- The request comes as far as the redirect. -/
def Reaches (p : Pipeline) (r : Request) : Prop :=
  p.gate.closing = false ∧ p.limiter.inFlight < p.limiter.max ∧ p.allowed.allows r.method = true

/-- **A client goes where it is led**: what becomes of its requests, while the host stands as one pipeline after
another when they come. -/
def journey (location : String) : List Pipeline → Request → List Verdict
  | [], _ => []
  | p :: ps, r =>
    p.judge r :: if p.judge r = .redirected then ((r.goTo? location).map (journey location ps)).getD [] else []

/-! ### The stage -/

theorem isSome_ofSettings?_iff (c : Settings.Console) :
    (ConsoleRedirect.ofSettings? c).isSome = true ↔ isHeaderValue c.route = true := by
  unfold ConsoleRedirect.ofSettings?
  split <;> simp [*]

theorem ofSettings?_eq_some_iff {console : Settings.Console} :
    ConsoleRedirect.ofSettings? console = some c ↔
      isHeaderValue console.route = true ∧ c = ⟨console.route, console.redirectPaths.map withoutEndSlashes⟩ := by
  unfold ConsoleRedirect.ofSettings?
  split <;> simp [*, eq_comm]

/-- **A path leads to the console** if it is one of the settings up to slashes at its end. -/
theorem covers_iff {console : Settings.Console} (hc : ConsoleRedirect.ofSettings? console = some c)
    (path : String) :
    c.covers path = true ↔ ∃ path' ∈ console.redirectPaths, SamePath path' path := by
  obtain ⟨-, rfl⟩ := ofSettings?_eq_some_iff.1 hc
  unfold ConsoleRedirect.covers
  simp [samePath_iff]

/-- **No redirect is set up without a word about it.** -/
theorem redirectDisabled_mem_buildEvents_iff (s : Settings) (mode : RunMode) :
    redirectDisabled s.console.route ∈ buildEvents s mode ↔ ConsoleRedirect.ofSettings? s.console = none := by
  have hmethods : redirectDisabled s.console.route ∉ AllowedMethods.events s.pipeline.allowedMethods := by
    unfold AllowedMethods.events redirectDisabled
    simp
  unfold buildEvents
  cases ConsoleRedirect.ofSettings? s.console with
  | some c => cases mode <;> simp [hmethods] <;> simp [redirectDisabled]
  | none => simp [redirectDisabled]

/-! ### A client that is led -/

theorem SetBy.judge_eq_redirected_iff (h : p.SetBy s mode) :
    p.judge r = .redirected ↔ p.Reaches r ∧ LeadsToConsole s r.target.path := by
  have hmethod := h.allows_iff r.method
  rw [eq_comm, ← h.judged_iff]
  unfold Reaches
  rw [h.max]
  constructor
  · rintro (_ | _ | _ | ⟨hclosing, hslot, hnamed, hlead⟩)
    exact ⟨⟨hclosing, hslot, hmethod.2 hnamed⟩, hlead⟩
  · rintro ⟨⟨hclosing, hslot, hallowed⟩, hlead⟩
    exact .redirected hclosing hslot (hmethod.1 hallowed) hlead

/-- Who follows the redirect is led to the console again if the route leads back. -/
theorem SetBy.judge_goTo?_iff (hs : s.Valid) (h : p.SetBy s mode) (hroute : isHeaderValue s.console.route = true)
    (hgo : r.goTo? s.console.route = some r') : p.judge r' = .redirected ↔ p.Reaches r ∧ LeadsBack s := by
  obtain ⟨target, htarget, rfl⟩ := Option.map_eq_some_iff.1 hgo
  rw [h.judge_eq_redirected_iff]
  unfold LeadsToConsole LeadsBack
  rw [Target.path_of_parse? hs.rooted_route htarget]
  -- the method is the one that the client had before
  exact and_congr_right fun _ => and_iff_right hroute

/-- Who is there already stays there. -/
theorem goTo?_goTo? {location : String} (hgo : r.goTo? location = some r') : r'.goTo? location = some r' := by
  obtain ⟨target, htarget, rfl⟩ := Option.map_eq_some_iff.1 hgo
  unfold Request.goTo?
  rw [htarget]
  rfl

/-- A client that is not led is at its end. -/
theorem count_journey_eq_zero (location : String) (h : ∀ p ∈ ps.head?, p.judge r ≠ .redirected) :
    (journey location ps r).count .redirected = 0 := by
  cases ps with
  | nil => rfl
  | cons p ps =>
    have hend : p.judge r ≠ .redirected := h p rfl
    rw [journey, if_neg hend]
    exact List.count_eq_zero_of_not_mem fun hmem => hend (List.mem_singleton.1 hmem).symm

theorem journey_of_redirected {location : String} (ps : List Pipeline) (h : p.judge r = .redirected)
    (hgo : r.goTo? location = some r') : journey location (p :: ps) r = .redirected :: journey location ps r' := by
  rw [journey, h, if_pos rfl, hgo]
  rfl

/-- **Nobody is led twice** where the route does not lead back, whatever becomes of the host meanwhile. -/
theorem count_journey_le (hs : s.Valid) (hroute : isHeaderValue s.console.route = true)
    (hps : ∀ p ∈ ps, p.SetBy s mode) (hback : ¬LeadsBack s) (r : Request) :
    (journey s.console.route ps r).count .redirected ≤ 1 := by
  cases ps with
  | nil => exact Nat.zero_le 1
  | cons p ps =>
    by_cases hled : p.judge r = .redirected
    · cases hgo : r.goTo? s.console.route with
      | none =>
        rw [journey, hled, if_pos rfl, hgo]
        exact le_rfl
      | some r' =>
        -- the second request is not led, wherever the host stands then, and so there is no third
        have hafter : (journey s.console.route ps r').count .redirected = 0 := by
          refine count_journey_eq_zero _ fun q hq hledAgain => hback ?_
          have hq : q.SetBy s mode := hps q (List.mem_cons_of_mem p (List.mem_of_mem_head? hq))
          exact ((hq.judge_goTo?_iff hs hroute hgo).1 hledAgain).2
        rw [journey_of_redirected ps hled hgo, List.count_cons_self, hafter]
    · have hnever : (journey s.console.route (p :: ps) r).count .redirected = 0 := by
        refine count_journey_eq_zero _ fun q hq => ?_
        obtain rfl := Option.some.inj hq
        exact hled
      omega

/-- **Who is led to a route that leads back is led for ever**, as long as the requests come as far as the
redirect. -/
theorem journey_of_leadsBack (hs : s.Valid) (hroute : isHeaderValue s.console.route = true)
    (hps : ∀ p ∈ ps, p.SetBy s mode ∧ p.Reaches r) (hback : LeadsBack s)
    (hgo : r.goTo? s.console.route = some r') :
    journey s.console.route ps r' = List.replicate ps.length .redirected := by
  -- each redirect leads to the same request, so the induction needs no other one
  induction ps with
  | nil => rfl
  | cons p ps ih =>
    obtain ⟨⟨hp, hreaches⟩, hps⟩ := List.forall_mem_cons.1 hps
    have hled : p.judge r' = .redirected := (hp.judge_goTo?_iff hs hroute hgo).2 ⟨hreaches, hback⟩
    rw [journey_of_redirected ps hled (goTo?_goTo? hgo), ih hps]
    rfl

/-- **The answer that leads to the console** names the console route, and nothing of the host has changed. -/
theorem SetBy.handleOver_of_redirected (h : p.SetBy s mode) (base : Base) (b : Logbook)
    (hled : p.judge r = .redirected) :
    ∃ a b', handleOver base p r b = (.answered a, p, b') ∧ a.status = 302 ∧
      a.headers.get? "location" = some s.console.route := by
  have hhandled := h.handled base r b
  rw [hled] at hhandled
  rcases hreply : handleOver base p r b with ⟨reply, p', b'⟩
  rw [hreply] at hhandled
  dsimp only at hhandled
  cases hhandled with
  | byItself hanswer _ =>
    obtain rfl := Option.some.inj hanswer
    refine ⟨_, b', rfl, Response.status_sealed _ _ _, ?_⟩
    rw [Response.get?_sealed _ _ _ (by decide) (by decide), Table.get?_insert, if_pos rfl]

/-- **Where the redirect leads** under checked settings, while the gate and the limiter stand as they may.

There is a redirect if the console route can be sent in a header. If it cannot, building says so, and nobody is
led anywhere. The redirect takes the console route itself only if that is among its paths, up to slashes at the
end. Whoever is led there asks for the route's path. If this is not among the paths either, nobody is led twice;
and if it is, who was led there once is led there again and again. -/
theorem redirect_reaches_console (hs : s.Valid) (hp : p.SetBy s mode) :
    (p.redirect.isSome = true ↔ isHeaderValue s.console.route = true) ∧
    (redirectDisabled s.console.route ∈ buildEvents s mode ↔ p.redirect = none) ∧
    (p.redirect = none → ∀ r, p.judge r ≠ .redirected) ∧
    ∀ c, p.redirect = some c →
      (c.covers s.console.route = false ↔ ∀ path ∈ s.console.redirectPaths, ¬SamePath path s.console.route) ∧
      (∀ base r b, p.judge r = .redirected →
        ∃ a b', handleOver base p r b = (.answered a, p, b') ∧ a.status = 302 ∧
          a.headers.get? "location" = some s.console.route) ∧
      ∀ ps r, (∀ q ∈ ps, q.SetBy s mode) →
        (¬LeadsBack s → (journey s.console.route ps r).count .redirected ≤ 1) ∧
        (LeadsBack s → (∀ q ∈ ps, q.Reaches r) → ∀ r', r.goTo? s.console.route = some r' →
          journey s.console.route ps r' = List.replicate ps.length .redirected) := by
  have hsome : p.redirect.isSome = true ↔ isHeaderValue s.console.route = true := by
    rw [hp.redirect]
    exact isSome_ofSettings?_iff s.console
  refine ⟨hsome, ?_, ?_, fun c hc => ?_⟩
  · rw [hp.redirect]
    exact redirectDisabled_mem_buildEvents_iff s mode
  · intro hnone r hled
    have hroute := hsome.2 (hp.judge_eq_redirected_iff.1 hled).2.1
    rw [hnone] at hroute
    cases hroute
  · have hroute : isHeaderValue s.console.route = true := hsome.1 (by rw [hc]; rfl)
    have hcovers := covers_iff (hp.redirect.symm.trans hc) s.console.route
    refine ⟨?_, fun base r b hled => hp.handleOver_of_redirected base b hled, fun ps r hps => ⟨?_, ?_⟩⟩
    · rw [← Bool.not_eq_true, hcovers]
      simp only [not_exists, not_and]
    · exact fun hback => count_journey_le hs hroute hps hback r
    · exact fun hback hreach r' hgo =>
        journey_of_leadsBack hs hroute (fun q hq => ⟨hps q hq, hreach q hq⟩) hback hgo

/-- Settings with a console route and the paths that lead there. -/
def consoleAt (route : String) (redirectPaths : List String) : Settings :=
  { console := { route, redirectPaths } }

/-- Slashes at the ends and a query keep nobody from the console. -/
theorem redirect_reaches_console_slashes :
    let s := consoleAt "/console/?view=all" ["//", "/admin//"]
    s.Valid ∧ (ofSettings {} s .prod).SetBy s .prod ∧ (ofSettings {} s .prod).redirect.isSome = true ∧
      ¬LeadsBack s ∧
      ∀ ps r, (∀ q ∈ ps, q.SetBy s .prod) → (journey s.console.route ps r).count .redirected ≤ 1 := by
  intro s
  have hs : s.Valid := by decide +kernel
  have hp : (ofSettings {} s .prod).SetBy s .prod := setBy_ofSettings {} s .prod {} 0
  have hback : ¬LeadsBack s := by decide +kernel
  obtain ⟨hsome, -, -, hredirect⟩ := redirect_reaches_console hs hp
  have hinstalled : (ofSettings {} s .prod).redirect.isSome = true := hsome.2 (by decide +kernel)
  obtain ⟨c, hc⟩ := Option.isSome_iff_exists.1 hinstalled
  refine ⟨hs, hp, hinstalled, hback, fun ps r hps => ?_⟩
  obtain ⟨-, -, hjourney⟩ := hredirect c hc
  exact (hjourney ps r hps).1 hback

/-- **Checked settings do not always reach the console.** A route that cannot be sent leaves the host without a
redirect. One that is a redirect path but for a slash is covered by the redirect. And one that is a redirect path
with a query is not covered, but who follows it is led there again. -/
theorem redirect_misses_console :
    let unsent := consoleAt "/a\nb" ["/admin"]
    let covered := consoleAt "/admin" ["/admin/"]
    let asked := consoleAt "/admin?view=all" ["/admin"]
    let p := ofSettings {} asked .prod
    (unsent.Valid ∧ (ofSettings {} unsent .prod).redirect = none) ∧
    (covered.Valid ∧ (ofSettings {} covered .prod).redirect.map (·.covers covered.console.route) = some true) ∧
    (asked.Valid ∧ p.redirect.map (·.covers asked.console.route) = some false ∧
      (Request.parse? "GET" "/admin").map (journey asked.console.route [p, p, p]) =
        some [.redirected, .redirected, .redirected]) := by
  decide +kernel

end Pipeline

end Http

end ModuleHost
