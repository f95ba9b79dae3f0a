import ModuleHost.Http.Header
import ModuleHost.Settings.Basic

/-!
# The console redirect

* `ConsoleRedirect.ofSettings?`: there is a redirect if the console route can be sent in a header.
* `ConsoleRedirect.covers`: the paths that lead to the console.
-/

namespace ModuleHost.Http

/-- A path without the slashes at its end. -/
def withoutEndSlashes (path : String) : String :=
  String.ofList (path.toList.reverse.dropWhile (· == '/')).reverse

/-- **Paths that lead to the console.** -/
structure ConsoleRedirect where
  location : String
  /-- The paths, without the slashes at their ends. -/
  paths : List String
  deriving DecidableEq, Inhabited

namespace ConsoleRedirect

/-- **The redirect that the settings say.** -/
def ofSettings? (c : Settings.Console) : Option ConsoleRedirect :=
  if isHeaderValue c.route then some ⟨c.route, c.redirectPaths.map withoutEndSlashes⟩ else none

/-- **Whether a path leads to the console.** Slashes at its end do not matter. -/
def covers (r : ConsoleRedirect) (path : String) : Bool :=
  r.paths.contains (withoutEndSlashes path)

end ConsoleRedirect

end ModuleHost.Http
