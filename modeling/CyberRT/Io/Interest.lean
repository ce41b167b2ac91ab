import CyberRT.Io.Poller
import CyberRT.Lists.Entries

namespace CyberRT.Io

open Execution

namespace Poller

variable {Callback : Type} {poller next : Poller Callback}

/-- The interest set is that of the requests. -/
def Tracks (poller : Poller Callback) : Prop :=
  ∀ fd, poller.interest fd = (poller.requests.lookup fd).map PollRequest.events

/-- No request for a new descriptor is to change one that the kernel does not have, and none is to add one that it has
    with other events. -/
def Applicable (poller : Poller Callback) : Prop :=
  ∀ fd param, poller.ctrlParams.lookup fd = some param →
    (param.operation = .mod → poller.interest fd ≠ none) ∧
    (param.operation = .add → poller.interest fd = none ∨ poller.interest fd = some param.events)

/-- What a pending operation says of the request. -/
def Announces (poller : Poller Callback) (fd : Int) (param : PollCtrlParam) : Prop :=
  param.fd = fd ∧ match param.operation with
    | .add | .mod => (poller.requests.lookup fd).map PollRequest.events = some param.events
    | .del => poller.requests.lookup fd = none

/-- The interest set is that of the requests but for the pending operations. -/
structure Follows (poller : Poller Callback) : Prop where
  pending : ∀ fd param, poller.ctrlParams.lookup fd = some param → poller.Announces fd param
  settled : ∀ fd, poller.ctrlParams.lookup fd = none →
    poller.interest fd = (poller.requests.lookup fd).map PollRequest.events

theorem follows_init (pipeFd : Int) (drain : Callback) : (init pipeFd drain).Follows := by
  constructor
  · intro fd param found
    simp only [init] at found
    by_cases same : fd = pipeFd
    · subst same
      rw [AList.lookup_insert] at found
      cases found
      refine ⟨rfl, ?_⟩
      simp only [init, AList.lookup_insert]
      rfl
    · rw [AList.lookup_insert_ne same, AList.lookup_empty] at found
      cases found
  · intro fd none
    simp only [init] at none ⊢
    by_cases same : fd = pipeFd
    · subst same
      rw [AList.lookup_insert] at none
      cases none
    · rw [AList.lookup_insert_ne same, AList.lookup_empty]
      rfl

theorem Tracks.follows (tracks : poller.Tracks) (applied : poller.ctrlParams = ∅) : poller.Follows := by
  constructor
  · intro fd param found
    rw [applied, AList.lookup_empty] at found
    cases found
  · exact fun fd _ => tracks fd

theorem Follows.register (follows : poller.Follows) (request : PollRequest Callback) :
    (poller.register request).2.Follows := by
  unfold Poller.register
  split
  · constructor
    · intro fd param found
      by_cases same : fd = request.fd
      · subst same
        rw [AList.lookup_insert] at found
        cases found
        unfold Announces
        refine ⟨rfl, ?_⟩
        by_cases absent : poller.requests.lookup request.fd = none
        · simp [absent]
        · simp [absent]
      · dsimp only at found
        rw [AList.lookup_insert_ne same] at found
        have announced := follows.pending fd param found
        unfold Announces at announced ⊢
        dsimp only
        rw [AList.lookup_insert_ne same]
        exact announced
    · intro fd none
      by_cases same : fd = request.fd
      · subst same
        rw [AList.lookup_insert] at none
        cases none
      · dsimp only at none ⊢
        rw [AList.lookup_insert_ne same] at none ⊢
        exact follows.settled fd none
  · exact follows

theorem Follows.unregister (follows : poller.Follows) (request : PollRequest Callback) :
    (poller.unregister request).2.Follows := by
  unfold Poller.unregister
  split
  · split
    · exact follows
    · constructor
      · intro fd param found
        by_cases same : fd = request.fd
        · subst same
          rw [AList.lookup_insert] at found
          cases found
          exact ⟨rfl, AList.lookup_erase _ _⟩
        · dsimp only at found
          rw [AList.lookup_insert_ne same] at found
          have announced := follows.pending fd param found
          unfold Announces at announced ⊢
          dsimp only
          rw [AList.lookup_erase_ne same]
          exact announced
      · intro fd none
        by_cases same : fd = request.fd
        · subst same
          rw [AList.lookup_insert] at none
          cases none
        · dsimp only at none ⊢
          rw [AList.lookup_insert_ne same] at none
          rw [AList.lookup_erase_ne same]
          exact follows.settled fd none
  · exact follows

/-- After `HandleChanges` every descriptor has what its pending operation has made of it. -/
theorem Follows.interest_handleChanges (follows : poller.Follows) (fd : Int) :
    poller.handleChanges.interest fd =
      (poller.ctrlParams.lookup fd).elim (poller.interest fd) fun param => param.apply (poller.interest fd) := by
  have keyed : ∀ entry ∈ poller.ctrlParams.entries, entry.2.fd = entry.1 := by
    intro entry member
    exact (follows.pending entry.1 entry.2 (AList.mem_lookup_iff.mpr member)).1
  unfold handleChanges
  split
  · rename_i applied
    have empty : poller.ctrlParams = ∅ := AList.ext (List.isEmpty_iff.mp applied)
    rw [empty, AList.lookup_empty]
    rfl
  · have folded := Lists.foldl_entries (fun interest _ param => epollCtl interest param) poller.ctrlParams
      ?_ ?_ poller.interest fd
    · refine folded.trans ?_
      cases found : poller.ctrlParams.lookup fd with
      | none => rfl
      | some param =>
        obtain rfl := (follows.pending fd param found).1
        exact Function.update_self _ _ _
    · intro entry member interest other differs
      rw [← keyed entry member] at differs
      exact Function.update_of_ne differs _ _
    · intro entry member interest interest' same
      rw [← keyed entry member] at same ⊢
      simp [epollCtl, same]

theorem ctrlParams_handleChanges (poller : Poller Callback) : poller.handleChanges.ctrlParams = ∅ := by
  unfold handleChanges
  split
  · rename_i applied
    exact AList.ext (List.isEmpty_iff.mp applied)
  · rfl

theorem requests_handleChanges (poller : Poller Callback) : poller.handleChanges.requests = poller.requests := by
  unfold handleChanges
  split <;> rfl

/-- The kernel comes to have the events of the request just when the operation is applicable. -/
theorem Follows.apply_iff (follows : poller.Follows) {fd : Int} {param : PollCtrlParam}
    (found : poller.ctrlParams.lookup fd = some param) :
    param.apply (poller.interest fd) = (poller.requests.lookup fd).map PollRequest.events ↔
      (param.operation = .mod → poller.interest fd ≠ none) ∧
      (param.operation = .add → poller.interest fd = none ∨ poller.interest fd = some param.events) := by
  have announced := (follows.pending fd param found).2
  unfold PollCtrlParam.apply
  cases operation : param.operation with
  | add =>
    rw [operation] at announced
    rw [announced]
    cases poller.interest fd <;> simp
  | mod =>
    rw [operation] at announced
    rw [announced]
    cases poller.interest fd <;> simp
  | del =>
    rw [operation] at announced
    rw [announced]
    cases poller.interest fd <;> simp

theorem Follows.tracks_iff (follows : poller.Follows) : poller.handleChanges.Tracks ↔ poller.Applicable := by
  unfold Tracks Applicable
  apply forall_congr'
  intro fd
  rw [follows.interest_handleChanges, requests_handleChanges]
  cases found : poller.ctrlParams.lookup fd with
  | none => simp [follows.settled fd found]
  | some param =>
    show param.apply (poller.interest fd) = _ ↔ _
    rw [follows.apply_iff found]
    simp

/-- The kernel has the requests' events after the step, if it is `HandleChanges`. -/
def KeepsTrack (poller : Poller Callback) : PollerEvent Callback → Prop
  | .handleChanges => poller.handleChanges.Tracks
  | _ => True

/-- What `HandleChanges` takes over are operations that the kernel can perform. -/
def AppliesInTurn (poller : Poller Callback) : PollerEvent Callback → Prop
  | .handleChanges => poller.Applicable
  | _ => True

/-- After every `HandleChanges` of a run the interest set is that of the requests if and only if each of them found only
    operations that the kernel can perform. -/
theorem tracks_iff_applicable (pipeFd : Int) (drain : Callback) (events : List (PollerEvent Callback)) :
    Meets step KeepsTrack (init pipeFd drain) events ↔ Meets step AppliesInTurn (init pipeFd drain) events := by
  apply meets_congr_of_meets Follows
  · intro poller event next met taken follows
    cases event with
    | register request =>
      cases taken
      exact follows.register request
    | unregister request =>
      cases taken
      exact follows.unregister request
    | handleChanges =>
      cases taken
      exact Tracks.follows met poller.ctrlParams_handleChanges
  · intro poller event follows
    cases event with
    | register request | unregister request => exact Iff.rfl
    | handleChanges => exact follows.tracks_iff
  · exact follows_init pipeFd drain

def readable (timeoutMs : Int) : PollRequest Unit :=
  { fd := 5, events := epollIn ||| epollEt, timeoutMs := timeoutMs, callback := some () }

/-- The descriptor is registered again before the thread of the poller has told the kernel of it. -/
def registeredTwice : List (PollerEvent Unit) := [.register (readable 0), .register (readable 50), .handleChanges]

theorem registeredTwice_untracked :
    ∃ poller, run step (init 3 ()) registeredTwice = some poller ∧
      poller.interest 5 = none ∧ poller.requests.lookup 5 = some (readable 50) ∧ ¬poller.Tracks := by
  have reached : (run step (init 3 ()) registeredTwice).any (fun poller =>
      decide (poller.interest 5 = none ∧ poller.requests.lookup 5 = some (readable 50))) = true := by decide +kernel
  obtain ⟨poller, ran, same⟩ := (Option.any_eq_true _ _).mp reached
  obtain ⟨absent, requested⟩ := of_decide_eq_true same
  refine ⟨poller, ran, absent, requested, ?_⟩
  intro tracks
  have kept := tracks 5
  rw [absent, requested] at kept
  cases kept

end Poller

end CyberRT.Io
