import HatReel.Proofs.Model.Permits

/-! How fetching a model fails.

A model that is not given is looked for in the cache and downloaded. Of the faults that are foreseen
this ends with one kind only: the download has failed. -/

namespace HatReel.Model

open HatReel.Decimal HatReel.Files HatReel.Log HatReel.Rig HatReel.Rig.Act

/-- The download from a URL has failed, or something has that is not foreseen. -/
def Misses (url : String) (fault : Fault) : Prop :=
  fault.isForeseen = true → ∃ reason, fault = .download url reason

theorem misses_unforeseen (url : String) {fault : Fault} (unforeseen : fault.isForeseen = false) :
    Misses url fault := by
  intro foreseen
  rw [unforeseen] at foreseen
  cases foreseen

theorem unplaced_unforeseen {cacheDir url : String} {homes : Homes} {fault : Fault}
    (unplaced : cachedPath url cacheDir homes = .error fault) : fault.isForeseen = false := by
  unfold cachedPath at unplaced
  rcases route : Web.path url with urlFault | route <;> rw [route] at unplaced
  · cases unplaced
    rfl
  · rcases home : (Path.ofText cacheDir).expandHome? homes with _ | directory
    · simp only [home] at unplaced
      cases unplaced
      rfl
    · simp only [home] at unplaced
      cases unplaced

def fetchLeave (url : String) (keys : List Key) : Leave where
  fails := Misses url
  sees := keys
  changes := keys
  files _ := misses_unforeseen url rfl
  inside _ inside := inside

abbrev Missing {α : Type} (url : String) (x : Act World α) : Prop :=
  Stays (fun _ => True) (Misses url) x

theorem missing_discard {url : String} {part : Path} {fault : Fault} (misses : Misses url fault) :
    Missing url (Model.discard part fault) := by
  unfold Model.discard
  split
  · apply stays_bind
    · exact (Leave.Fetch.unlink (l := fetchLeave url part.trail) part fun _ inside => inside).stays
    intro _
    exact stays_fail misses
  · exact stays_fail misses

theorem missing_download (url : String) (target : Path) (timeout : Number) :
    Missing url (download url target timeout) := by
  let l := fetchLeave url (fetchKeys target)
  have own : ∀ key ∈ target.trail, key ∈ l.changes := fun _ => trail_fetchKeys
  have ownPart : ∀ key ∈ (target.addSuffix ".part").trail, key ∈ l.changes := fun _ => trail_part
  have requests : l.Allows (request url (target.addSuffix ".part") timeout) :=
    allows_request ⟨fun reason _ => ⟨reason, rfl⟩, fun _ => misses_unforeseen url rfl⟩ _ _ ownPart
  have tells (message : String) : Missing url (log .info loggerName message) :=
    (Leave.Fetch.log (l := l) .info loggerName message nofun).stays
  apply stays_bind
  · exact (Leave.Fetch.ensure (l := l) _ fun key inside => own key (Path.trail_parent inside)).stays
  intro _
  apply stays_bind (tells _)
  intro _
  apply stays_bind
  · exact stays_recover (requests.stays fun _ _ is => is.stays) fun _ misses =>
      missing_discard misses
  intro _
  apply stays_bind (Leave.Fetch.replace (l := l) _ _ ownPart own).stays
  intro _
  apply stays_bind (tells _)
  intro _
  exact stays_pure target

/-- The only foreseen fault of a model that is not given is that its download has failed. -/
theorem resolve_misses {cacheDir url : String} {timeout : Number} {w w' : World} {fault : Fault}
    {t : List Event} (ran : resolve none cacheDir url timeout w = ⟨.error fault, w', t⟩)
    (foreseen : fault.isForeseen = true) : ∃ reason, fault = .download url reason := by
  have missing : Missing url (resolveAt w.scripts.homes none cacheDir url timeout) := by
    unfold resolveAt
    simp only
    cases place : cachedPath url cacheDir w.scripts.homes with
    | error unplaced =>
        exact stays_fail (misses_unforeseen url (unplaced_unforeseen place))
    | ok cached =>
        let l := fetchLeave url cached.trail
        rw [ofExcept_ok_bind]
        apply stays_bind
        · exact (Leave.allows_exists? (l := l) fun _ inside => inside).stays fun _ _ is => is.stays
        intro found
        cases found with
        | false => exact missing_download url cached timeout
        | true =>
            apply stays_bind (Leave.Fetch.log (l := l) .debug loggerName _ nofun).stays
            intro _
            exact stays_pure cached
  exact (missing w trivial).2 fault (by rw [← resolve_eq, ran]) foreseen

end HatReel.Model
