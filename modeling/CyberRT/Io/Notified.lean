import CyberRT.Io.Blocking

namespace CyberRT.Io

open CyberRT.Croutine Execution
open PollSession (Attended hosted blocking readableInTime)

/-- A call of `Block` that has returned: the direction of its request, and the responses that the poller has delivered since
    the request was registered. -/
structure BlockReturn where
  isRead : Bool
  result : Bool
  delivered : List UInt32
  deriving DecidableEq, Repr

/-- The result says what the poller has delivered. -/
def BlockReturn.Justified (call : BlockReturn) : Prop :=
  call.result = true → ∃ response ∈ call.delivered, response &&& targetEvents call.isRead ≠ 0

/-- A routine that calls `Block` and is also notified of messages; `notifiers` counts the calls of `NotifyProcessor` that have
    found it waiting and are still to set its update flag. -/
structure NotifiedSession (Processor : Type) where
  session : PollSession Processor
  notifiers : Nat := 0
  delivered : List UInt32 := []
  returned : List BlockReturn := []

/-- The accesses of `NotifyProcessor` when a message has come, and a `Yield` of the routine outside `Block`. -/
inductive NotifiedEvent (Processor : Type) where
  | session (event : SessionEvent Processor)
  | readState
  | setUpdateFlag
  | waitForData (processor : Processor)

namespace NotifiedSession

variable {Processor : Type} [DecidableEq Processor]

def deliveredBy (delivered : List UInt32) (session : PollSession Processor) : SessionEvent Processor → List UInt32
  | .callback =>
    match session.poll with
    | .callback (.storeResponse response) _ => delivered ++ [response]
    | _ => delivered
  | .routine _ =>
    match session.block with
    | .register _ => []
    | _ => delivered
  | _ => delivered

def recorded (noted : NotifiedSession Processor) (next : PollSession Processor) : List BlockReturn :=
  noted.returned ++ (next.results.drop noted.session.results.length).map fun result =>
    ⟨noted.session.handler.isRead, result, noted.delivered⟩

/-- Only the routine returns from a call. -/
def returnedBy (noted : NotifiedSession Processor) (next : PollSession Processor) :
    SessionEvent Processor → List BlockReturn
  | .call _ _ _ | .routine _ => noted.recorded next
  | _ => noted.returned

def step (noted : NotifiedSession Processor) : NotifiedEvent Processor → Option (NotifiedSession Processor)
  | .session event => (noted.session.step event).map fun next =>
    { noted with
      session := next
      delivered := deliveredBy noted.delivered noted.session event
      returned := noted.returnedBy next event }
  | .readState =>
    some { noted with notifiers := if noted.session.host.routine.isWaiting then noted.notifiers + 1 else noted.notifiers }
  | .setUpdateFlag =>
    match noted.notifiers with
    | 0 => none
    | notifiers + 1 =>
      some { noted with session := { noted.session with host := noted.session.host.setUpdateFlag }, notifiers }
  | .waitForData processor =>
    if noted.session.host.processor processor = .inside ∧ noted.session.block = .idle then
      let host := (noted.session.host.setState .dataWait).leave processor
      some { noted with session := { noted.session with host } }
    else none

/-- A response has been delivered since the request was registered, or the response that is kept from before has none of the
    events of the direction. -/
def Heard (noted : NotifiedSession Processor) (isRead : Bool) : Prop :=
  noted.delivered ≠ [] ∨ noted.session.handler.response &&& targetEvents isRead = 0

/-- No processor awakens the routine in `Block` before the poller has answered, or else the handler keeps no response that
    could pass for the answer. -/
def AwakensHeard (noted : NotifiedSession Processor) : NotifiedEvent Processor → Prop
  | .session (.processor processor _) => noted.session.host.processor processor = .awaken →
      ∀ isRead, noted.session.block = .readResponse isRead → noted.Heard isRead
  | _ => True

end NotifiedSession

/-- The direction of a request from `Register` to the end of `Yield`. -/
def BlockPoint.direction : BlockPoint → Option Bool
  | .register isRead | .setState isRead | .swap isRead | .readResponse isRead => some isRead
  | _ => none

/-- The direction for which the routine has set its state. -/
def BlockPoint.asleep : BlockPoint → Option Bool
  | .swap isRead | .readResponse isRead => some isRead
  | _ => none

namespace NotifiedSession

variable {Processor : Type} [DecidableEq Processor] {noted next : NotifiedSession Processor}

structure Vouched (noted : NotifiedSession Processor) : Prop where
  attended : noted.session.Attended
  stored : noted.delivered = [] ∨ noted.session.handler.response ∈ noted.delivered
  direction : ∀ isRead, noted.session.block.direction = some isRead → noted.session.handler.isRead = isRead
  asleep : ∀ isRead, noted.session.block.asleep = some isRead →
    noted.session.host.routine.state = .ioWait ∨ noted.session.host.routine.state = .finished ∨ noted.Heard isRead
  leaving : noted.session.block = .leave true →
    ∃ response ∈ noted.delivered, response &&& targetEvents noted.session.handler.isRead ≠ 0
  returned : ∀ call ∈ noted.returned, call.Justified

omit [DecidableEq Processor] in
theorem vouched_start (fd pipeFd : Int) : Vouched ({ session := .start fd pipeFd } : NotifiedSession Processor) where
  attended := PollSession.attended_start fd pipeFd
  stored := Or.inl rfl
  direction := by
    intro isRead here
    cases here
  asleep := by
    intro isRead here
    cases here
  leaving := by
    intro here
    cases here
  returned := by simp

omit [DecidableEq Processor] in
/-- A step outside the routine, with at most one response more. -/
theorem Vouched.frame (vouched : noted.Vouched) (attended : next.session.Attended)
    (block : next.session.block = noted.session.block)
    (isRead : next.session.handler.isRead = noted.session.handler.isRead)
    (state : next.session.host.routine.state = noted.session.host.routine.state)
    (delivered : next.delivered = noted.delivered ∧ next.session.handler.response = noted.session.handler.response ∨
      next.delivered = noted.delivered ++ [next.session.handler.response])
    (returned : next.returned = noted.returned) : next.Vouched where
  attended := attended
  stored := by
    rcases delivered with ⟨same, response⟩ | more
    · rw [same, response]
      exact vouched.stored
    · rw [more]
      exact Or.inr (List.mem_append_right _ (List.mem_singleton_self _))
  direction := by
    rw [block, isRead]
    exact vouched.direction
  asleep := by
    intro direction here
    rw [block] at here
    rw [state]
    rcases vouched.asleep direction here with waits | finished | heard
    · exact Or.inl waits
    · exact Or.inr (Or.inl finished)
    · right
      right
      rcases delivered with ⟨same, response⟩ | more
      · unfold Heard
        rw [same, response]
        exact heard
      · apply Or.inl
        rw [more]
        exact List.append_ne_nil_of_right_ne_nil _ (List.cons_ne_nil _ _)
  leaving := by
    intro here
    rw [block] at here
    obtain ⟨response, member, carries⟩ := vouched.leaving here
    rw [isRead]
    refine ⟨response, ?_, carries⟩
    rcases delivered with ⟨same, _⟩ | more
    · rw [same]
      exact member
    · rw [more]
      exact List.mem_append_left _ member
  returned := by
    rw [returned]
    exact vouched.returned

omit [DecidableEq Processor] in
theorem Vouched.aside (vouched : noted.Vouched) {session : PollSession Processor} (aside : noted.session.Aside session) :
    Vouched { noted with session } := by
  apply vouched.frame (vouched.attended.aside aside) aside.block
  · exact congrArg PollHandler.isRead aside.handler
  · exact congrArg (fun host => host.routine.state) aside.host
  · exact Or.inl ⟨rfl, congrArg PollHandler.response aside.handler⟩
  · rfl

omit [DecidableEq Processor] in
theorem Vouched.callback (vouched : noted.Vouched) {session : PollSession Processor}
    (taken : noted.session.callbackStep = some session) :
    Vouched { noted with session, delivered := deliveredBy noted.delivered noted.session .callback } := by
  have attended := vouched.attended.callbackStep taken
  unfold PollSession.callbackStep at taken
  split at taken
  · rename_i here
    obtain rfl := Option.some.inj taken
    simp only [deliveredBy, here]
    exact vouched.frame attended rfl rfl rfl (Or.inl ⟨rfl, rfl⟩) rfl
  · rename_i here
    obtain rfl := Option.some.inj taken
    simp only [deliveredBy, here]
    exact vouched.frame attended rfl rfl rfl (Or.inr rfl) rfl
  · rename_i here
    obtain rfl := Option.some.inj taken
    simp only [deliveredBy, here]
    exact vouched.frame attended rfl rfl rfl (Or.inl ⟨rfl, rfl⟩) rfl
  · rename_i here
    obtain rfl := Option.some.inj taken
    simp only [deliveredBy, here]
    exact vouched.frame attended rfl rfl rfl (Or.inl ⟨rfl, rfl⟩) rfl
  · rename_i here
    obtain rfl := Option.some.inj taken
    simp only [deliveredBy, here]
    exact vouched.frame attended rfl rfl rfl (Or.inl ⟨rfl, rfl⟩) rfl
  · cases taken

theorem Vouched.processor (vouched : noted.Vouched) {processor : Processor} {elapsed : Bool} {host : Hosting Processor}
    (heard : noted.AwakensHeard (.session (.processor processor elapsed)))
    (moved : noted.session.host.step processor elapsed = some host) :
    Vouched { noted with session := { noted.session with host } } where
  attended := by
    have taken : noted.session.step (.processor processor elapsed) = some { noted.session with host } := by
      simp [PollSession.step, moved]
    exact vouched.attended.step taken
  stored := vouched.stored
  direction := vouched.direction
  asleep := by
    intro isRead here
    have carries := vouched.attended.carries
    have before := vouched.asleep isRead here
    by_cases unheard : noted.Heard isRead
    · exact Or.inr (Or.inr unheard)
    · have awake : noted.session.host.routine.state ≠ .sleep := by
        rcases before with waits | finished | heard
        · rw [waits]
          decide
        · rw [finished]
          decide
        · exact absurd heard unheard
      rcases Hosting.step_state moved awake with same | finished | awakens
      · rw [same]
        exact before
      · exact Or.inr (Or.inl finished)
      · cases point : noted.session.block with
        | swap direction =>
          rw [point] at carries
          obtain ⟨other, inside⟩ := carries.inside trivial
          rw [carries.held.step_inside inside moved]
          exact before
        | readResponse direction =>
          have same : direction = isRead := by
            rw [point] at here
            exact Option.some.inj here
          exact absurd (heard awakens isRead (same ▸ point)) unheard
        | idle | exchange _ _ | register _ | setState _ | leave _ =>
          rw [point] at here
          cases here
  leaving := vouched.leaving
  returned := vouched.returned

omit [DecidableEq Processor] in
theorem justified_same (vouched : noted.Vouched) {session : PollSession Processor}
    (results : session.results = noted.session.results) : ∀ call ∈ noted.recorded session, call.Justified := by
  unfold recorded
  rw [results, List.drop_length, List.map_nil, List.append_nil]
  exact vouched.returned

omit [DecidableEq Processor] in
theorem justified_recorded (vouched : noted.Vouched) {session : PollSession Processor} {result : Bool}
    (results : session.results = noted.session.results ++ [result])
    (justified : BlockReturn.Justified ⟨noted.session.handler.isRead, result, noted.delivered⟩) :
    ∀ call ∈ noted.recorded session, call.Justified := by
  unfold recorded
  rw [results, List.drop_left]
  intro call member
  rcases List.mem_append.mp member with old | new
  · exact vouched.returned call old
  · obtain rfl := List.mem_singleton.mp new
    exact justified

omit [DecidableEq Processor] in
/-- Where the routine has not set its state and is not about to return true. -/
theorem vouched_awake (attended : noted.session.Attended)
    (stored : noted.delivered = [] ∨ noted.session.handler.response ∈ noted.delivered)
    (direction : ∀ isRead, noted.session.block.direction = some isRead → noted.session.handler.isRead = isRead)
    (awake : noted.session.block.asleep = none) (leaving : noted.session.block ≠ .leave true)
    (returned : ∀ call ∈ noted.returned, call.Justified) : noted.Vouched where
  attended := attended
  stored := stored
  direction := direction
  asleep := by
    intro isRead asleep
    rw [awake] at asleep
    cases asleep
  leaving := fun leaves => absurd leaves leaving
  returned := returned

omit [DecidableEq Processor] in
/-- Where the routine is neither in the middle of a request nor about to return true. -/
theorem vouched_aloof (attended : noted.session.Attended)
    (stored : noted.delivered = [] ∨ noted.session.handler.response ∈ noted.delivered)
    (direction : noted.session.block.direction = none) (leaving : noted.session.block ≠ .leave true)
    (returned : ∀ call ∈ noted.returned, call.Justified) : noted.Vouched := by
  apply vouched_awake attended stored ?_ ?_ leaving returned
  · intro isRead registers
    rw [direction] at registers
    cases registers
  · cases point : noted.session.block with
    | swap _ | readResponse _ =>
      rw [point] at direction
      cases direction
    | idle | exchange _ _ | register _ | setState _ | leave _ => rfl

theorem Vouched.call (vouched : noted.Vouched) {processor : Processor} {timeoutMs : Int} {isRead : Bool}
    {session : PollSession Processor} (taken : noted.session.call processor timeoutMs isRead = some session) :
    Vouched { noted with session, returned := noted.recorded session } := by
  have attended := vouched.attended.call taken
  unfold PollSession.call at taken
  split at taken
  · cases taken
  · split at taken
    · rename_i here
      split at taken
      · obtain rfl := Option.some.inj taken
        apply vouched_aloof
        · exact attended
        · exact vouched.stored
        · exact congrArg BlockPoint.direction here
        · intro leaves
          exact absurd (here.symm.trans leaves) (by decide)
        · exact justified_recorded vouched rfl fun impossible => absurd impossible Bool.false_ne_true
      · obtain rfl := Option.some.inj taken
        apply vouched_aloof
        · exact attended
        · exact vouched.stored
        · rfl
        · exact BlockPoint.noConfusion
        · exact justified_same vouched rfl
    · cases taken

omit [DecidableEq Processor] in
/-- A routine that runs behind its `Yield` has been awakened. -/
theorem Vouched.heard (vouched : noted.Vouched) {processor : Processor} {isRead : Bool}
    (here : noted.session.block = .readResponse isRead) (inside : noted.session.host.processor processor = .inside) :
    noted.Heard isRead := by
  have carries := vouched.attended.carries
  have asleep := vouched.asleep
  rw [here] at carries asleep
  have ready := carries.resumed id processor inside
  rcases asleep isRead rfl with waits | finished | heard
  · rw [ready] at waits
    cases waits
  · rw [ready] at finished
    cases finished
  · exact heard

theorem Vouched.routine (vouched : noted.Vouched) {processor : Processor} {session : PollSession Processor}
    (taken : noted.session.routineStep processor = some session) : Vouched { noted with
      session, delivered := deliveredBy noted.delivered noted.session (.routine processor),
      returned := noted.recorded session } := by
  have attended := vouched.attended.routineStep taken
  have stored := vouched.stored
  have direction := vouched.direction
  have asleep := vouched.asleep
  unfold PollSession.routineStep at taken
  split at taken
  · cases taken
  · rename_i within
    have inside := not_not.mp within
    split at taken
    · cases taken
    · rename_i timeoutMs isRead here
      simp only [deliveredBy, here]
      split at taken
      · obtain rfl := Option.some.inj taken
        apply vouched_aloof
        · exact attended
        · exact stored
        · rfl
        · exact BlockPoint.noConfusion
        · exact justified_recorded vouched rfl fun impossible => absurd impossible Bool.false_ne_true
      · obtain rfl := Option.some.inj taken
        apply vouched_awake
        · exact attended
        · exact stored
        · intro direction registers
          exact Option.some.inj registers
        · rfl
        · exact BlockPoint.noConfusion
        · exact justified_same vouched rfl
    · rename_i isRead here
      rw [here] at direction
      simp only [deliveredBy, here]
      split at taken
      · cases taken
      · split at taken
        · obtain rfl := Option.some.inj taken
          apply vouched_awake
          · exact attended
          · exact Or.inl rfl
          · exact direction
          · rfl
          · exact BlockPoint.noConfusion
          · exact justified_same vouched rfl
        · obtain rfl := Option.some.inj taken
          apply vouched_aloof
          · exact attended
          · exact Or.inl rfl
          · rfl
          · intro leaves
            cases leaves
          · exact justified_same vouched rfl
    · rename_i isRead here
      rw [here] at direction
      simp only [deliveredBy, here]
      obtain rfl := Option.some.inj taken
      apply Vouched.mk
      · exact attended
      · exact stored
      · exact direction
      · exact fun _ _ => Or.inl rfl
      · intro impossible
        cases impossible
      · exact justified_same vouched rfl
    · rename_i isRead here
      rw [here] at direction asleep
      simp only [deliveredBy, here]
      obtain rfl := Option.some.inj taken
      apply Vouched.mk
      · exact attended
      · exact stored
      · exact direction
      · exact asleep
      · intro impossible
        cases impossible
      · exact justified_same vouched rfl
    · rename_i isRead here
      rw [here] at direction
      simp only [deliveredBy, here]
      obtain rfl := Option.some.inj taken
      have heard := vouched.heard here inside
      apply Vouched.mk
      · exact attended
      · exact stored
      · intro _ impossible
        cases impossible
      · intro _ impossible
        cases impossible
      · intro leaves
        have carried : noted.session.handler.response &&& targetEvents isRead ≠ 0 := by
          simpa using leaves
        refine ⟨noted.session.handler.response, ?_, ?_⟩
        · rcases heard with some | none
          · exact stored.resolve_left some
          · exact absurd none carried
        · show _ &&& targetEvents noted.session.handler.isRead ≠ 0
          rw [direction isRead rfl]
          exact carried
      · exact justified_same vouched rfl
    · rename_i result here
      have leaving := vouched.leaving
      rw [here] at leaving
      simp only [deliveredBy, here]
      obtain rfl := Option.some.inj taken
      apply vouched_aloof
      · exact attended
      · exact stored
      · rfl
      · exact BlockPoint.noConfusion
      · apply justified_recorded vouched rfl
        intro true
        exact leaving (congrArg BlockPoint.leave true)

theorem Vouched.session (vouched : noted.Vouched) {event : SessionEvent Processor}
    (heard : noted.AwakensHeard (.session event)) (taken : noted.step (.session event) = some next) : next.Vouched := by
  obtain ⟨session, moved, rfl⟩ := Option.map_eq_some_iff.mp taken
  cases event with
  | call processor timeoutMs isRead => exact vouched.call moved
  | routine processor => exact vouched.routine moved
  | processor processor elapsed =>
    obtain ⟨host, hosted, rfl⟩ := Option.map_eq_some_iff.mp moved
    exact vouched.processor heard hosted
  | callback => exact vouched.callback moved
  | register request | unregister request => exact vouched.aside (PollSession.otherStep_aside moved)
  | handleChanges | wait ready | expire intervalMs | respond fd | responded =>
    simp only [PollSession.step] at moved
    exact vouched.aside (PollSession.pollStep_aside moved)

theorem Vouched.waitForData (vouched : noted.Vouched) {processor : Processor}
    (taken : noted.step (.waitForData processor) = some next) : next.Vouched := by
  unfold NotifiedSession.step at taken
  simp only at taken
  split at taken
  · rename_i outside
    obtain ⟨inside, here⟩ := outside
    obtain rfl := Option.some.inj taken
    have lock : (noted.session.host.routine.setState .dataWait).lock = noted.session.host.routine.lock := rfl
    have yields : (noted.session.host.setState .dataWait).Carries True True :=
      vouched.attended.carries.inside_to inside lock fun running => absurd trivial running
    apply vouched_aloof
    · apply PollSession.Attended.mk
      · apply yields.leave inside
        show ¬noted.session.block.Within
        rw [here]
        exact id
      · exact vouched.attended.blocking
      · exact vouched.attended.notifying
    · exact vouched.stored
    · exact congrArg BlockPoint.direction here
    · intro leaves
      exact absurd (here.symm.trans leaves) (by decide)
    · exact vouched.returned
  · cases taken

theorem Vouched.step (vouched : noted.Vouched) {event : NotifiedEvent Processor} (heard : noted.AwakensHeard event)
    (taken : noted.step event = some next) : next.Vouched := by
  cases event with
  | session event => exact vouched.session heard taken
  | readState =>
    obtain rfl := Option.some.inj taken
    exact vouched.frame vouched.attended rfl rfl rfl (Or.inl ⟨rfl, rfl⟩) rfl
  | setUpdateFlag =>
    unfold NotifiedSession.step at taken
    simp only at taken
    split at taken
    · cases taken
    · obtain rfl := Option.some.inj taken
      have attended : Attended { noted.session with host := noted.session.host.setUpdateFlag } :=
        ⟨vouched.attended.carries.setUpdateFlag, vouched.attended.blocking, vouched.attended.notifying⟩
      exact vouched.frame attended rfl rfl rfl (Or.inl ⟨rfl, rfl⟩) rfl
  | waitForData processor => exact vouched.waitForData taken

/-- Where no processor awakens the routine in `Block` too early, `Block` returns true only for an event that the poller has
    delivered since the request was registered. -/
theorem returned_justified {fd pipeFd : Int} {events : List (NotifiedEvent Processor)}
    (heard : Meets step AwakensHeard { session := .start fd pipeFd } events)
    (ran : run step { session := .start fd pipeFd } events = some noted) : ∀ call ∈ noted.returned, call.Justified :=
  (Meets.preserves Vouched (fun _ _ _ heard taken vouched => vouched.step heard taken) (vouched_start fd pipeFd) heard
    ran).returned

instance (noted : NotifiedSession Processor) (isRead : Bool) : Decidable (noted.Heard isRead) :=
  inferInstanceAs (Decidable (_ ∨ _))

instance (call : BlockReturn) : Decidable call.Justified := inferInstanceAs (Decidable (_ → _))

instance (noted : NotifiedSession Processor) : (event : NotifiedEvent Processor) → Decidable (noted.AwakensHeard event)
  | .session (.processor processor _) => inferInstanceAs (Decidable (noted.session.host.processor processor = .awaken →
      ∀ isRead, noted.session.block = .readResponse isRead → noted.Heard isRead))
  | .session (.call _ _ _) | .session (.routine _) | .session .handleChanges | .session (.wait _)
  | .session (.expire _) | .session (.respond _) | .session .callback | .session .responded
  | .session (.register _) | .session (.unregister _) | .readState | .setUpdateFlag | .waitForData _ => isTrue trivial

/-- A message comes for a routine that waits for a descriptor to be readable for the first time. -/
def messageFirst : List (NotifiedEvent Unit) :=
  (hosted 5 ++ [SessionEvent.call () 100 true] ++ blocking 4).map .session ++ [.readState, .setUpdateFlag] ++
    (hosted 7 ++ blocking 2).map .session

theorem messageFirst_justified : ∃ noted, run step { session := .start 5 3 } messageFirst = some noted ∧
    noted.returned = [⟨true, false, []⟩] ∧ ∀ call ∈ noted.returned, call.Justified := by
  have reached : (run step { session := .start 5 3 } messageFirst).any (fun noted =>
      decide (noted.returned = [⟨true, false, []⟩])) = true := by decide +kernel
  obtain ⟨noted, ran, returned⟩ := (Option.any_eq_true _ _).mp reached
  have heard : Meets step AwakensHeard ({ session := .start 5 3 } : NotifiedSession Unit) messageFirst := by
    decide +kernel
  exact ⟨noted, ran, of_decide_eq_true returned, returned_justified heard ran⟩

/-- A first call is answered. A message then wakes the second, which takes the answer of the first for its own. -/
def messageSecond : List (NotifiedEvent Unit) :=
  readableInTime.map .session ++ (.session (.call () 100 true) :: (blocking 4).map .session) ++
    [.readState, .setUpdateFlag] ++ (hosted 7 ++ blocking 2).map .session

theorem messageSecond_unjustified :
    ¬∀ (events : List (NotifiedEvent Unit)) (noted : NotifiedSession Unit),
      run step { session := .start 5 3 } events = some noted → ∀ call ∈ noted.returned, call.Justified := by
  intro always
  have reached : (run step { session := .start 5 3 } messageSecond).any (fun noted : NotifiedSession Unit =>
      decide (noted.returned = [⟨true, true, [epollIn]⟩, ⟨true, true, []⟩])) = true := by decide +kernel
  obtain ⟨noted, ran, facts⟩ := (Option.any_eq_true _ _).mp reached
  have returned := of_decide_eq_true facts
  have justified := always messageSecond noted ran ⟨true, true, []⟩ (by simp [returned])
  exact absurd justified (by decide)

end NotifiedSession

end CyberRT.Io
