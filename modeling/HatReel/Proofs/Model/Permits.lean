import HatReel.Model.Detector
import HatReel.Proofs.Rig.Spares

/-! What resolving and loading a model has leave to do.

A model is fetched to its place in the cache through a part file beside it. Fetching it has to do
with the keys on the way there and with that of the part, and with nothing else. -/

namespace HatReel.Model

open HatReel.Decimal HatReel.Files HatReel.Log HatReel.Rig HatReel.Rig.Act

/-- The keys on the way to a place in a cache, and that of the part file beside it. -/
def fetchKeys (target : Path) : List Key := target.trail ++ [(target.addSuffix ".part").goal]

/-- The keys of the cache that a model is fetched to; none if a model is given. -/
def cacheKeys (homes : Homes) (given : Option String) (cacheDir url : String) : List Key :=
  match given, cachedPath url cacheDir homes with
  | none, .ok target => fetchKeys target
  | _, _ => []

theorem trail_fetchKeys {target : Path} {key : Key} (inside : key ∈ target.trail) :
    key ∈ fetchKeys target := List.mem_append_left _ inside

theorem trail_part {target : Path} {key : Key}
    (inside : key ∈ (target.addSuffix ".part").trail) : key ∈ fetchKeys target := by
  unfold fetchKeys
  revert inside
  unfold Path.addSuffix
  cases target.name? with
  | none => exact fun inside => List.mem_append_left _ inside
  | some name =>
      intro inside
      simp only at inside ⊢
      rw [Path.trail_child] at inside
      rcases List.mem_append.mp inside with above | last
      · exact List.mem_append_left _ (Path.trail_parent above)
      · exact List.mem_append_right _ last

def modelPath (homes : Homes) (given : Option String) (cacheDir url : String) : Except Fault Path :=
  match given with
  | some path => .ok (Path.ofText path)
  | none => cachedPath url cacheDir homes

section

variable {homes : Homes} {given : Option String} {cacheDir url : String} {timeout : Number}

theorem download_ok {target path : Path} {w w' : World} {t : List Event}
    (ran : download url target timeout w = ⟨.ok path, w', t⟩) :
    path = target ∧ ∃ whole named t₁ t₂,
      Rig.replace (target.addSuffix ".part") target whole = ⟨.ok (), named, t₁⟩ ∧
      log .info loggerName s!"Cached classifier at {target.text}" named = ⟨.ok (), w', t₂⟩ := by
  obtain ⟨_, _, _, _, _, logging, _⟩ := bind_ok ran
  obtain ⟨_, _, _, _, _, requesting, _⟩ := bind_ok logging
  obtain ⟨_, whole, _, _, _, replacing, _⟩ := bind_ok requesting
  obtain ⟨_, named, t₁, _, replaced, telling, _⟩ := bind_ok replacing
  obtain ⟨_, last, t₂, _, told, returned, _⟩ := bind_ok telling
  obtain ⟨rfl, rfl, -⟩ := pure_ok returned
  exact ⟨rfl, whole, named, t₁, t₂, replaced, told⟩

theorem resolveAt_ok {path : Path} {w w' : World} {t : List Event}
    (ran : resolveAt homes given cacheDir url timeout w = ⟨.ok path, w', t⟩) :
    modelPath homes given cacheDir url = .ok path := by
  cases given with
  | some name => exact congrArg Except.ok (pure_ok ran).1.symm
  | none =>
      obtain ⟨cached, _, _, _, placed, asking, _⟩ := bind_ok ran
      obtain ⟨isCached, _, _⟩ := ofExcept_ok placed
      obtain ⟨found, _, _, _, _, finding, _⟩ := bind_ok asking
      cases found with
      | false =>
          rw [(download_ok finding).1]
          exact isCached
      | true =>
          obtain ⟨_, _, _, _, _, returned, _⟩ := bind_ok finding
          rw [(pure_ok returned).1]
          exact isCached

theorem resolveAt_unplaced {fault : Fault}
    (unplaced : modelPath homes given cacheDir url = .error fault) {β : Type}
    (f : Path → Act World β) : resolveAt homes given cacheDir url timeout >>= f = fail fault := by
  cases given with
  | some name => cases unplaced
  | none =>
      unfold resolveAt
      rw [show cachedPath url cacheDir homes = .error fault from unplaced]
      rfl

theorem resolveAt_bind {path : Path} (placed : modelPath homes given cacheDir url = .ok path)
    {β : Type} (f : Path → Act World β) :
    resolveAt homes given cacheDir url timeout >>= f =
      resolveAt homes given cacheDir url timeout >>= fun _ => f path := by
  apply bind_congr_of
  intro w other w' t ran
  have same := (resolveAt_ok ran).symm.trans placed
  rw [Except.ok.inj same]

end

section

variable {l : Leave}

theorem allows_fail {α : Type} {fault : Fault} (allowed : l.fails fault) :
    l.Allows (fail fault : Act World α) := .basic (.fail fault allowed)

theorem allows_unless {α : Type} {fault : Fault} (allowed : l.fails fault) {c : Prop} [Decidable c]
    {x : Act World α} (rest : l.Allows x) :
    l.Allows (if c then (fail fault : Act World PUnit) >>= fun _ => x else x) := by
  split
  · exact .bind (allows_fail allowed) fun _ => rest
  · exact rest

/-- A request and what is received upon it fail as a download or as the network. -/
structure RequestFails (l : Leave) (url : String) : Prop where
  download : ∀ reason, l.fails (.download url reason)
  network : ∀ reason, l.fails (.network reason)

theorem allows_receive {url : String} (fails : RequestFails l url) (part : Path) (status : Int)
    (chunks : List String) (ending : Ending) (own : ∀ key ∈ part.trail, key ∈ l.changes) :
    l.Allows (receive url part status chunks ending) := by
  unfold receive
  apply allows_unless (fails.download _)
  apply Built.bind (.basic (.write part _ own))
  intro _
  apply Built.bind (.basic (.emit _ nofun))
  intro _
  apply Built.bind (.basic (.write part _ own))
  intro _
  cases ending with
  | complete => exact .pure ()
  | timeout reason => exact allows_fail (fails.download reason)
  | crash reason => exact allows_fail (fails.network reason)

theorem allows_request {url : String} (fails : RequestFails l url) (part : Path) (timeout : Number)
    (own : ∀ key ∈ part.trail, key ∈ l.changes) : l.Allows (request url part timeout) := by
  apply Built.bind (.basic (.emit _ nofun))
  intro _
  apply Built.bind (.basic (.respond fun responses => next _ responses))
  intro response
  cases response with
  | refused reason => exact allows_fail (fails.download reason)
  | answered status chunks ending =>
      apply Built.ensuring
      · exact allows_receive fails part status chunks ending own
      · exact .basic (.emit _ nofun)

end

section

variable {l : Leave} (any : ∀ fault, l.fails fault)

include any

theorem allows_discard (part : Path) (fault : Fault) (own : ∀ key ∈ part.trail, key ∈ l.changes) :
    l.Allows (Model.discard part fault) := by
  unfold Model.discard
  split
  · apply Built.bind (.basic (.unlink part own))
    intro _
    exact allows_fail (any _)
  · exact allows_fail (any _)

theorem allows_download (url : String) (target : Path) (timeout : Number)
    (own : ∀ key ∈ fetchKeys target, key ∈ l.changes) : l.Allows (download url target timeout) := by
  have ownTarget : ∀ key ∈ target.trail, key ∈ l.changes := fun key inside =>
    own key (trail_fetchKeys inside)
  have ownPart : ∀ key ∈ (target.addSuffix ".part").trail, key ∈ l.changes := fun key inside =>
    own key (trail_part inside)
  apply Built.bind (.basic (.ensure _ fun key inside => ownTarget key (Path.trail_parent inside)))
  intro _
  apply Built.bind (.basic (.log _ _ _ nofun))
  intro _
  apply Built.bind
    (.recover (allows_request ⟨fun _ => any _, fun _ => any _⟩ _ _ ownPart) fun fault =>
    allows_discard any _ fault ownPart)
  intro _
  apply Built.bind (.basic (.replace _ _ ownPart ownTarget))
  intro _
  apply Built.bind (.basic (.log _ _ _ nofun))
  intro _
  exact .pure target

/-- Resolving a model stays within the keys of its cache. -/
theorem allows_resolveAt (homes : Homes) (given : Option String) (cacheDir url : String)
    (timeout : Number) (own : ∀ key ∈ cacheKeys homes given cacheDir url, key ∈ l.changes) :
    l.Allows (resolveAt homes given cacheDir url timeout) := by
  cases given with
  | some path => exact .pure _
  | none =>
      unfold resolveAt
      unfold cacheKeys at own
      cases place : cachedPath url cacheDir homes with
      | error fault => exact allows_fail (any fault)
      | ok cached =>
          rw [place] at own
          have ownTrail : ∀ key ∈ cached.trail, key ∈ l.sees := fun key inside =>
            l.inside key (own key (trail_fetchKeys inside))
          simp only [ofExcept_ok_bind]
          apply Built.bind (Leave.allows_exists? ownTrail)
          intro found
          cases found with
          | false => exact allows_download any url cached timeout own
          | true =>
              apply Built.bind (.basic (.log _ _ _ nofun))
              intro _
              exact .pure cached

theorem permits_load (path : Path) (seen : ∀ key ∈ path.trail, key ∈ l.sees) :
    l.Permits (load path) := by
  have failing {fault : Fault} {c : Prop} [Decidable c] {x : Act World Unit} (rest : l.Permits x) :
      l.Permits (if c then (fail fault : Act World PUnit) >>= fun _ => x else x) := by
    split
    · exact .bind (allows_fail (any fault)).permits fun _ => rest
    · exact rest
  have loaded : l.Permits (log .info loggerName s!"Loaded classifier {path.text}") :=
    Leave.permits_log _ _ _ (by decide)
  unfold load
  apply Built.bind (Leave.allows_isFile? seen).permits
  intro found
  apply failing
  apply Built.bind (Leave.permits_emit (.cascadeLoad path.text) nofun)
  intro _
  apply Built.look
  · intro w v same
    rw [same]
  · intro w
    dsimp only
    split
    · apply Built.bind (allows_fail (any _)).permits
      intro _
      exact failing loaded
    · exact failing loaded

end

end HatReel.Model
