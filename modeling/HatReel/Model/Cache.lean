import HatReel.Decimal.Printer
import HatReel.Rig.World

/-!
The cache of detector models. A model that was fetched lies in the cache under the last name of its
URL's path. A model is received into a file of its own and gets its name only once it is complete.
-/

namespace HatReel.Model

open HatReel.Decimal HatReel.Files HatReel.Log HatReel.Rig

def loggerName : String := "cvdemo.classifier"

def modelName (route : List Char) : String :=
  ((Path.ofText (String.ofList route)).name?).getD "classifier.xml"

def cachedPath (url cacheDir : String) (homes : Homes := .standard) : Except Fault Path := do
  let route ← (Web.path url).mapError .badUrl
  match (Path.ofText cacheDir).expandHome? homes with
  | some directory => return directory.child (modelName route)
  | none => throw .noHome

def chunkSize : Nat := 8192

def nextResponse : Act World Response := fun w =>
  let (response, rest) := next (.refused "no response scripted") w.scripts.responses
  ⟨.ok response, { w with scripts := { w.scripts with responses := rest } }, []⟩

def receive (url : String) (part : Path) (status : Int) (chunks : List String) (ending : Ending) :
    Act World Unit := do
  if 400 ≤ status then .fail (.download url s!"{status} error")
  changeFiles fun s => s.write part []
  .emit (.httpIterate chunkSize)
  changeFiles fun s => s.write part (chunks.flatMap Text.utf8)
  match ending with
  | .complete => pure ()
  | .timeout reason => .fail (.download url reason)
  | .crash reason => .fail (.network reason)

def request (url : String) (part : Path) (timeout : Number) : Act World Unit := do
  .emit (.httpGet url timeout)
  match ← nextResponse with
  | .refused reason => .fail (.download url reason)
  | .answered status chunks ending =>
    .ensuring (receive url part status chunks ending) (.emit .httpClose)

/-- After a failed download nothing of it is left, unless it failed in an unforeseen way. -/
def discard (part : Path) (fault : Fault) : Act World Unit :=
  match fault with
  | .download .. => do
    unlink part
    .fail fault
  | _ => .fail fault

def download (url : String) (target : Path) (timeout : Number) : Act World Path := do
  ensureDirectory target.parent
  let part := target.addSuffix ".part"
  log .info loggerName s!"Downloading classifier from {url}"
  .recover (request url part timeout) (discard part)
  replace part target
  log .info loggerName s!"Cached classifier at {target.text}"
  return target

/-- The model to load: the one that was given, or the cached one, which is downloaded if it is not
there. -/
def resolveAt (homes : Homes) (given : Option String) (cacheDir url : String) (timeout : Number) :
    Act World Path := do
  match given with
  | some path => return Path.ofText path
  | none =>
    let cached ← Act.ofExcept id (cachedPath url cacheDir homes)
    if ← askFiles fun s => s.exists? cached then
      log .debug loggerName s!"Using cached classifier {cached.text}"
      return cached
    else download url cached timeout

def resolve (given : Option String) (cacheDir url : String) (timeout : Number) :
    Act World Path := do
  resolveAt (← Act.get).scripts.homes given cacheDir url timeout

theorem resolve_eq (given : Option String) (cacheDir url : String) (timeout : Number) (w : World) :
    resolve given cacheDir url timeout w =
      resolveAt w.scripts.homes given cacheDir url timeout w := rfl

end HatReel.Model
