import CyberRT.Scheduler.WaitQueue

namespace CyberRT.Scheduler

open Execution

namespace WaitQueue

variable {Thread : Type} [DecidableEq Thread] {queue next : WaitQueue Thread} {thread : Thread}
  {target : WaitPoint Thread} {monitor : Monitor Thread (WaitPoint Thread)}

/-- While a processor sleeps, some thread is about to wake all of them, or there is a thread astir for each unit of the
    count. -/
structure Sound (queue : WaitQueue Thread) : Prop where
  exclusive : queue.monitor.Exclusive
  nonneg : 0 ≤ queue.notify
  blocks : ∀ thread, queue.point thread = .block → queue.notify = 0
  attended : (∃ thread, (queue.point thread).alerts = true) ∨ queue.monitor.Attends queue.notify.toNat

omit [DecidableEq Thread] in
theorem start_sound (processors : Thread → Bool) : (start processors).Sound where
  exclusive := by
    apply guarded_none
    intro thread
    simp only [start]
    split <;> simp [Waits.inside, WaitPoint.inside]
  nonneg := le_refl _
  blocks thread _ := rfl
  attended := .inr attended_zero

/-- What a thread keeps when it goes on without touching the count. -/
structure Keeps (point next : WaitPoint Thread) : Prop where
  awake : next ≠ .asleep
  unblocked : next = .block → point = .block
  astir : point.astir = true → next.astir = true
  alerts : point.alerts = true → next.alerts = true

/-- What all threads keep. -/
structure Calm (point next : WaitPoint Thread) : Prop where
  unblocked : next = .block → point = .block
  alerts : point.alerts = true → next.alerts = true

omit [DecidableEq Thread] in
theorem Calm.refl (point : WaitPoint Thread) : Calm point point := ⟨id, id⟩

omit [DecidableEq Thread] in
theorem Keeps.calm {point : WaitPoint Thread} (keeps : Keeps point target) : Calm point target :=
  ⟨keeps.unblocked, keeps.alerts⟩

omit [DecidableEq Thread] in
theorem calm_wakes : Calm (.asleep : WaitPoint Thread) .relock := ⟨nofun, nofun⟩

omit [DecidableEq Thread] in
theorem alerts_of_calm (calm : ∀ other, Calm (queue.point other) (next.point other))
    (alerted : ∃ other, (queue.point other).alerts = true) : ∃ other, (next.point other).alerts = true := by
  obtain ⟨other, alerts⟩ := alerted
  exact ⟨other, (calm other).alerts alerts⟩

omit [DecidableEq Thread] in
theorem Sound.frame (sound : queue.Sound) (calm : ∀ other, Calm (queue.point other) (next.point other))
    (exclusive : next.monitor.Exclusive) (count : next.notify = queue.notify)
    (attends : queue.monitor.Attends queue.notify.toNat → next.monitor.Attends queue.notify.toNat) : next.Sound where
  exclusive := exclusive
  nonneg := by
    rw [count]
    exact sound.nonneg
  blocks other blocked := by
    rw [count]
    exact sound.blocks other ((calm other).unblocked blocked)
  attended := by
    rw [count]
    exact sound.attended.imp (alerts_of_calm calm) attends

theorem Sound.moves (sound : queue.Sound) (keeps : Keeps (queue.point thread) target)
    (same : target.inside = (queue.point thread).inside) (moved : next.monitor = queue.monitor.moveTo thread target)
    (count : next.notify = queue.notify) : next.Sound := by
  refine sound.frame (fun other => ?_) ?_ count ?_
  · show Calm (queue.monitor.point other) (next.monitor.point other)
    rw [moved]
    exact Monitor.related_moveTo Calm Calm.refl keeps.calm other
  · rw [moved]
    exact sound.exclusive.moveTo same
  · rw [moved]
    exact fun attends => attends.moveTo keeps.awake keeps.astir

theorem Sound.moveTo (sound : queue.Sound) (keeps : Keeps (queue.point thread) target)
    (same : target.inside = (queue.point thread).inside) : (queue.moveTo thread target).Sound :=
  sound.moves keeps same rfl rfl

theorem Sound.acquire (sound : queue.Sound) (keeps : Keeps (queue.point thread) target) (enters : target.inside = true)
    (taken : queue.acquire thread target = some next) : next.Sound := by
  obtain ⟨monitor, locked, rfl⟩ := Option.map_eq_some_iff.mp taken
  exact sound.frame (Monitor.related_acquire Calm Calm.refl locked keeps.calm) (sound.exclusive.acquire locked enters) rfl
    fun attends => attends.acquire locked keeps.awake keeps.astir

theorem Sound.release (sound : queue.Sound) (keeps : Keeps (queue.point thread) target)
    (inside : (queue.point thread).inside = true) (leaves : target.inside = false) : (queue.release thread target).Sound :=
  sound.frame (Monitor.related_moveTo Calm Calm.refl keeps.calm) (sound.exclusive.release inside leaves) rfl
    fun attends => attends.release keeps.awake keeps.astir

/-- The count only changes inside the critical section, where no thread is about to block. -/
theorem Sound.counts (sound : queue.Sound) (target : WaitPoint Thread) (unblocked : target ≠ .block)
    (inside : (queue.point thread).inside = true)
    (stays : target.inside = true) (moved : next.monitor = queue.monitor.moveTo thread target) (nonneg : 0 ≤ next.notify)
    (attended : (∃ other, (next.point other).alerts = true) ∨ next.monitor.Attends next.notify.toNat) :
    next.Sound where
  exclusive := by
    rw [moved]
    exact sound.exclusive.moveTo (stays.trans inside.symm)
  nonneg := nonneg
  blocks other blocked := by
    rw [point, moved] at blocked
    change Function.update queue.monitor.point thread target other = .block at blocked
    by_cases here : other = thread
    · rw [here, Function.update_self] at blocked
      exact absurd blocked unblocked
    · rw [Function.update_of_ne here] at blocked
      have blocks_inside : (queue.point other).inside = true := by
        rw [point, blocked]
        rfl
      exact absurd (Guarded.only sound.exclusive blocks_inside inside) here
  attended := attended

theorem Sound.take (sound : queue.Sound) (here : queue.point thread = .take) (positive : 0 < queue.notify) :
    { queue.moveTo thread .unlock with notify := queue.notify - 1, taken := queue.taken + 1 }.Sound := by
  have one_less : queue.notify.toNat = (queue.notify - 1).toNat + 1 := by omega
  refine sound.counts .unlock nofun (here ▸ rfl) rfl rfl ?_ ?_
  · show 0 ≤ queue.notify - 1
    omega
  · have calm : Calm (queue.point thread) .unlock := here ▸ ⟨nofun, nofun⟩
    refine sound.attended.imp (alerts_of_calm (Monitor.related_moveTo Calm Calm.refl calm)) ?_
    intro attends
    rw [one_less] at attends
    exact attends.take nofun

theorem Sound.increment (sound : queue.Sound) {notifier : Notifier} (here : queue.point thread = .increment notifier) :
    { queue.moveTo thread (.notifyUnlock notifier) with
      notify := queue.notify + 1, posted := queue.posted + 1 }.Sound := by
  have nonneg := sound.nonneg
  have one_more : (queue.notify + 1).toNat = queue.notify.toNat + 1 := by omega
  refine sound.counts (.notifyUnlock notifier) nofun (here ▸ rfl) rfl rfl ?_ ?_
  · show 0 ≤ queue.notify + 1
    omega
  · have calm : Calm (queue.point thread) (.notifyUnlock notifier) := here ▸ ⟨nofun, nofun⟩
    refine sound.attended.imp (alerts_of_calm (Monitor.related_moveTo Calm Calm.refl calm)) ?_
    intro attends
    show Monitor.Attends _ (queue.notify + 1).toNat
    rw [one_more]
    refine attends.post nofun ?_ rfl
    show (queue.point thread).astir = false
    rw [here]
    rfl

theorem Sound.setMax (sound : queue.Sound) {processor : Thread} {joins : Bool}
    (here : queue.point thread = .setMax processor joins) :
    { queue.moveTo thread (.shutdownUnlock processor joins) with notify := 255 }.Sound := by
  refine sound.counts (.shutdownUnlock processor joins) nofun (here ▸ rfl) rfl rfl (Int.natCast_nonneg 255)
    (.inl ⟨thread, ?_⟩)
  show (Function.update queue.monitor.point thread (.shutdownUnlock processor joins) thread).alerts = true
  rw [Function.update_self]
  rfl

omit [DecidableEq Thread] in
/-- A thread goes to block, and blocks, only while the count is zero. -/
theorem Sound.quiet (zero : queue.notify = 0) (exclusive : monitor.Exclusive) : (queue.withMonitor monitor).Sound where
  exclusive := exclusive
  nonneg := zero.ge
  blocks _ _ := zero
  attended := by
    refine .inr ?_
    show monitor.Attends queue.notify.toNat
    rw [zero]
    exact Monitor.attends_zero

theorem Sound.check (sound : queue.Sound) (here : queue.point thread = .check) :
    (queue.moveTo thread (if 0 < queue.notify then .take else .block)).Sound := by
  split
  · exact sound.moveTo (here ▸ ⟨nofun, nofun, fun _ => rfl, nofun⟩) (here ▸ rfl)
  · have zero : queue.notify = 0 := by
      have nonneg := sound.nonneg
      omega
    exact .quiet zero (sound.exclusive.moveTo (congrArg WaitPoint.inside here).symm)

theorem Sound.threadStep [Fintype Thread] (sound : queue.Sound) {found expired : Bool} {woken : Option Thread}
    (taken : queue.threadStep thread found expired woken = some next) : next.Sound := by
  have goes : ∀ {point target : WaitPoint Thread}, queue.point thread = point → Keeps point target →
      target.inside = point.inside → (queue.moveTo thread target).Sound := by
    intro point target here keeps same
    exact sound.moveTo (here ▸ keeps) (here ▸ same)
  have acquires : ∀ {point target : WaitPoint Thread}, queue.point thread = point →
      queue.acquire thread target = some next → Keeps point target → target.inside = true → next.Sound := by
    intro point target here taken keeps enters
    exact sound.acquire (here ▸ keeps) enters taken
  have releases : ∀ {point target : WaitPoint Thread}, queue.point thread = point → Keeps point target →
      point.inside = true → target.inside = false → (queue.release thread target).Sound := by
    intro point target here keeps inside leaves
    exact sound.release (here ▸ keeps) (here ▸ inside) leaves
  unfold WaitQueue.threadStep at taken
  cases here : queue.point thread <;> simp only [here, Option.some.injEq] at taken
  case idle | asleep | ended => cases taken
  case running =>
    subst taken
    split <;> exact goes here ⟨nofun, nofun, nofun, nofun⟩ rfl
  case nextRoutine =>
    split at taken
    · obtain rfl := Option.some.inj taken
      exact goes here ⟨nofun, nofun, nofun, nofun⟩ rfl
    · obtain rfl := Option.some.inj taken
      exact sound.moves (here ▸ ⟨nofun, nofun, nofun, nofun⟩) (here ▸ rfl) rfl rfl
  case scan =>
    subst taken
    split <;> exact goes here ⟨nofun, nofun, nofun, nofun⟩ rfl
  case resume =>
    subst taken
    exact goes here ⟨nofun, nofun, nofun, nofun⟩ rfl
  case lock => exact acquires here taken ⟨nofun, nofun, nofun, nofun⟩ rfl
  case check =>
    subst taken
    exact sound.check here
  case block =>
    subst taken
    exact .quiet (sound.blocks thread here) (sound.exclusive.release (congrArg WaitPoint.inside here) rfl)
  case relock =>
    cases expired with
    | true => exact acquires here taken ⟨nofun, nofun, fun _ => rfl, nofun⟩ rfl
    | false => exact acquires here taken ⟨nofun, nofun, fun _ => rfl, nofun⟩ rfl
  case take =>
    split at taken
    · rename_i positive
      obtain rfl := Option.some.inj taken
      exact sound.take here positive
    · rename_i spent
      obtain rfl := Option.some.inj taken
      have nonneg := sound.nonneg
      exact .quiet (by omega) (sound.exclusive.moveTo (congrArg WaitPoint.inside here).symm)
  case unlock =>
    subst taken
    exact releases here ⟨nofun, nofun, nofun, nofun⟩ rfl rfl
  case notifyLock notifier => exact acquires here taken ⟨nofun, nofun, nofun, nofun⟩ rfl
  case increment notifier =>
    subst taken
    exact sound.increment here
  case notifyUnlock notifier =>
    subst taken
    exact releases here ⟨nofun, nofun, fun _ => rfl, nofun⟩ rfl rfl
  case notifyOne notifier =>
    obtain ⟨monitor, notified, rfl⟩ := Option.map_eq_some_iff.mp taken
    have calm : Calm (queue.point thread) notifier.point := by
      rw [here]
      cases notifier <;> exact ⟨nofun, nofun⟩
    have same : (notifier.point : WaitPoint Thread).inside = (queue.point thread).inside := by
      rw [here]
      cases notifier <;> rfl
    have awake : (notifier.point : WaitPoint Thread) ≠ .asleep := by cases notifier <;> nofun
    exact sound.frame (Monitor.related_notifyOne Calm Calm.refl calm_wakes notified calm)
      (sound.exclusive.notifyOne notified same) rfl fun attends => attends.notifyOne awake notified
  case exchange processor =>
    subst taken
    refine sound.moves (here ▸ ?_) (here ▸ ?_) rfl rfl
    · split <;> exact ⟨nofun, nofun, nofun, nofun⟩
    · split <;> rfl
  case setStop processor joins =>
    subst taken
    exact sound.moves (here ▸ ⟨nofun, nofun, nofun, nofun⟩) (here ▸ rfl) rfl rfl
  case shutdownLock processor joins => exact acquires here taken ⟨nofun, nofun, nofun, nofun⟩ rfl
  case setMax processor joins =>
    subst taken
    exact sound.setMax here
  case shutdownUnlock processor joins =>
    subst taken
    exact releases here ⟨nofun, nofun, nofun, fun _ => rfl⟩ rfl rfl
  case notifyAll processor joins =>
    subst taken
    have awake : (if joins then .join processor else .idle : WaitPoint Thread) ≠ .asleep := by cases joins <;> nofun
    refine ⟨sound.exclusive.notifyAll ?_, sound.nonneg, fun other blocked => sound.blocks other ?_,
      .inr (Monitor.attends_notifyAll awake)⟩
    · show WaitPoint.inside _ = (queue.point thread).inside
      rw [here]
      cases joins <;> rfl
    · refine Monitor.related_notifyAll (fun point next : WaitPoint Thread => next = .block → point = .block)
        (fun _ => id) ?_ ?_ other blocked
      · intro blocked
        cases blocked
      · intro blocked
        split at blocked <;> cases blocked
  case join processor =>
    simp only [Option.ite_none_right_eq_some, Option.some.injEq] at taken
    obtain ⟨_, rfl⟩ := taken
    exact goes here ⟨nofun, nofun, nofun, nofun⟩ rfl

theorem Sound.step [Fintype Thread] (sound : queue.Sound) {event : WaitEvent Thread}
    (taken : queue.step event = some next) : next.Sound := by
  cases event with
  | notify thread =>
    simp only [WaitQueue.step] at taken
    split at taken
    · rename_i here
      obtain rfl := Option.some.inj taken
      exact sound.moveTo (here ▸ ⟨nofun, nofun, nofun, nofun⟩) (here ▸ rfl)
    · rename_i here
      obtain rfl := Option.some.inj taken
      exact sound.moveTo (here ▸ ⟨nofun, nofun, nofun, nofun⟩) (here ▸ rfl)
    · cases taken
  | shutdown thread processor | stop thread processor =>
    simp only [WaitQueue.step, Option.ite_none_right_eq_some, Option.some.injEq] at taken
    obtain ⟨here, rfl⟩ := taken
    exact sound.moveTo (here ▸ ⟨nofun, nofun, nofun, nofun⟩) (here ▸ rfl)
  | wakes thread =>
    obtain ⟨monitor, woke, rfl⟩ := Option.map_eq_some_iff.mp taken
    exact sound.frame (Monitor.related_wakes Calm Calm.refl calm_wakes woke) (sound.exclusive.wakes woke) rfl
      fun attends => attends.wakes woke
  | step thread found expired woken => exact sound.threadStep taken

/-- No processor has been stopped. -/
def Serves (queue : WaitQueue Thread) : Prop := ∀ thread, queue.stop thread = false ∧ queue.running thread = true

/-- As long as no processor has been stopped, no unit of the count gets lost, and the queues are gone through after each
    notification. -/
structure Served (queue : WaitQueue Thread) : Prop where
  counted : queue.Serves → queue.notify + queue.taken = queue.posted
  served : queue.Serves → queue.posted = 0 ∨ 0 < queue.notify ∨ (∃ thread, (queue.point thread).heads = true) ∨
    ∃ thread, queue.seen thread = queue.posted
  stopped : ∀ thread, (queue.point thread).resets = true → ¬queue.Serves

omit [DecidableEq Thread] in
theorem start_served (processors : Thread → Bool) : (start processors).Served where
  counted _ := rfl
  served _ := .inl rfl
  stopped thread resets := by
    simp only [start, point] at resets
    split at resets <;> cases resets

/-- What a step leaves as it was. -/
structure Frame (queue next : WaitQueue Thread) : Prop where
  notify : next.notify = queue.notify
  posted : next.posted = queue.posted
  taken : next.taken = queue.taken
  seen : next.seen = queue.seen
  serves : next.Serves → queue.Serves

/-- A thread stays on its way to the queues, and does not come to set the count. -/
structure Leads (point next : WaitPoint Thread) : Prop where
  heads : point.heads = true → next.heads = true
  resets : next.resets = true → point.resets = true

omit [DecidableEq Thread] in
theorem Leads.refl (point : WaitPoint Thread) : Leads point point := ⟨id, id⟩

omit [DecidableEq Thread] in
theorem leads_wakes : Leads (.asleep : WaitPoint Thread) .relock := ⟨nofun, nofun⟩

omit [DecidableEq Thread] in
theorem Served.frame (served : queue.Served) (frame : Frame queue next)
    (leads : next.Serves → ∀ other, Leads (queue.point other) (next.point other)) : next.Served where
  counted serves := by
    rw [frame.notify, frame.posted, frame.taken]
    exact served.counted (frame.serves serves)
  served serves := by
    rw [frame.notify, frame.posted, frame.seen]
    rcases served.served (frame.serves serves) with none | positive | ⟨other, heading⟩ | seen
    · exact .inl none
    · exact .inr (.inl positive)
    · exact .inr (.inr (.inl ⟨other, (leads serves other).heads heading⟩))
    · exact .inr (.inr (.inr seen))
  stopped other resets serves := served.stopped other ((leads serves other).resets resets) (frame.serves serves)

omit [DecidableEq Thread] in
theorem Served.withMonitor (served : queue.Served) (leads : ∀ other, Leads (queue.point other) (monitor.point other)) :
    (queue.withMonitor monitor).Served :=
  served.frame ⟨rfl, rfl, rfl, rfl, id⟩ fun _ => leads

theorem Served.moveTo (served : queue.Served) (leads : Leads (queue.point thread) target) :
    (queue.moveTo thread target).Served :=
  served.withMonitor (Monitor.related_moveTo Leads Leads.refl leads)

theorem Served.acquire (served : queue.Served) (leads : Leads (queue.point thread) target)
    (taken : queue.acquire thread target = some next) : next.Served := by
  obtain ⟨monitor, locked, rfl⟩ := Option.map_eq_some_iff.mp taken
  exact served.withMonitor (Monitor.related_acquire Leads Leads.refl locked leads)

/-- A thread that does not come to set the count leaves all others where they are. -/
theorem Served.stopped_moveTo (served : queue.Served) (quiet : target.resets = false) (other : Thread)
    (resets : ((queue.moveTo thread target).point other).resets = true) : ¬queue.Serves := by
  refine served.stopped other (Monitor.related_moveTo
    (fun point next : WaitPoint Thread => next.resets = true → point.resets = true) (fun _ => id) ?_ other resets)
  simp [quiet]

theorem Served.take (served : queue.Served) :
    { queue.moveTo thread .unlock with notify := queue.notify - 1, taken := queue.taken + 1 }.Served where
  counted serves := by
    have counted := served.counted serves
    show queue.notify - 1 + (queue.taken + 1 : Nat) = queue.posted
    push_cast
    omega
  served _ := by
    refine .inr (.inr (.inl ⟨thread, ?_⟩))
    show (Function.update queue.monitor.point thread .unlock thread).heads = true
    rw [Function.update_self]
    rfl
  stopped := served.stopped_moveTo rfl

theorem Served.increment (served : queue.Served) (sound : queue.Sound) (quiet : target.resets = false) :
    { queue.moveTo thread target with notify := queue.notify + 1, posted := queue.posted + 1 }.Served where
  counted serves := by
    have counted := served.counted serves
    show queue.notify + 1 + queue.taken = (queue.posted + 1 : Nat)
    push_cast
    omega
  served _ := by
    have nonneg := sound.nonneg
    refine .inr (.inl ?_)
    show 0 < queue.notify + 1
    omega
  stopped := served.stopped_moveTo quiet

/-- A processor that goes through the queues has seen every notification made so far. -/
theorem Served.scan (served : queue.Served) :
    { queue.moveTo thread .scan with seen := Function.update queue.seen thread queue.posted }.Served where
  counted serves := served.counted serves
  served _ := .inr (.inr (.inr ⟨thread, Function.update_self ..⟩))
  stopped := served.stopped_moveTo rfl

/-- `Shutdown` may set the count to anything: the group serves no more. -/
theorem Served.setMax (served : queue.Served) {processor : Thread} {joins : Bool}
    (here : queue.point thread = .setMax processor joins) :
    { queue.moveTo thread (.shutdownUnlock processor joins) with notify := 255 }.Served where
  counted serves := absurd serves (served.stopped thread (here ▸ rfl))
  served serves := absurd serves (served.stopped thread (here ▸ rfl))
  stopped := served.stopped_moveTo rfl

theorem Served.threadStep [Fintype Thread] (served : queue.Served) (sound : queue.Sound) {found expired : Bool}
    {woken : Option Thread} (taken : queue.threadStep thread found expired woken = some next) : next.Served := by
  have goes : ∀ {point target : WaitPoint Thread}, queue.point thread = point → Leads point target →
      (queue.moveTo thread target).Served := by
    intro point target here leads
    exact served.moveTo (here ▸ leads)
  have acquires : ∀ {point target : WaitPoint Thread}, queue.point thread = point →
      queue.acquire thread target = some next → Leads point target → next.Served := by
    intro point target here taken leads
    exact served.acquire (here ▸ leads) taken
  have releases : ∀ {point target : WaitPoint Thread}, queue.point thread = point → Leads point target →
      (queue.release thread target).Served := by
    rintro _ target rfl leads
    exact served.withMonitor (Monitor.related_moveTo Leads Leads.refl leads)
  unfold WaitQueue.threadStep at taken
  cases here : queue.point thread <;> simp only [here, Option.some.injEq] at taken
  case idle | asleep | ended => cases taken
  case running =>
    subst taken
    cases running : queue.running thread with
    | true => exact goes here ⟨fun _ => rfl, nofun⟩
    | false =>
      refine served.frame ⟨rfl, rfl, rfl, rfl, id⟩ fun serves => ?_
      rw [show queue.running thread = true from (serves thread).2] at running
      cases running
  case nextRoutine =>
    split at taken
    · rename_i stopped
      obtain rfl := Option.some.inj taken
      refine served.frame ⟨rfl, rfl, rfl, rfl, id⟩ fun serves => ?_
      rw [show queue.stop thread = false from (serves thread).1] at stopped
      cases stopped
    · obtain rfl := Option.some.inj taken
      exact served.scan
  case scan =>
    subst taken
    split <;> exact goes here ⟨nofun, nofun⟩
  case resume =>
    subst taken
    exact goes here ⟨nofun, nofun⟩
  case lock => exact acquires here taken ⟨nofun, nofun⟩
  case check =>
    subst taken
    split <;> exact goes here ⟨nofun, nofun⟩
  case block =>
    subst taken
    exact releases here ⟨nofun, nofun⟩
  case relock =>
    cases expired with
    | true => exact acquires here taken ⟨nofun, nofun⟩
    | false => exact acquires here taken ⟨nofun, nofun⟩
  case take =>
    split at taken
    · obtain rfl := Option.some.inj taken
      exact served.take
    · obtain rfl := Option.some.inj taken
      exact goes here ⟨nofun, nofun⟩
  case unlock =>
    subst taken
    exact releases here ⟨fun _ => rfl, nofun⟩
  case notifyLock notifier => exact acquires here taken ⟨nofun, nofun⟩
  case increment notifier =>
    subst taken
    exact served.increment sound rfl
  case notifyUnlock notifier =>
    subst taken
    exact releases here ⟨nofun, nofun⟩
  case notifyOne notifier =>
    obtain ⟨monitor, notified, rfl⟩ := Option.map_eq_some_iff.mp taken
    have leads : Leads (queue.point thread) notifier.point := by
      rw [here]
      cases notifier <;> exact ⟨nofun, nofun⟩
    exact served.withMonitor (Monitor.related_notifyOne Leads Leads.refl leads_wakes notified leads)
  case exchange processor =>
    subst taken
    have halted : ∀ after : WaitQueue Thread, after.running = Function.update queue.running processor false →
        ¬after.Serves := by
      intro after running serves
      have still := (serves processor).2
      rw [running, Function.update_self] at still
      cases still
    exact ⟨fun serves => absurd serves (halted _ rfl), fun serves => absurd serves (halted _ rfl),
      fun _ _ => halted _ rfl⟩
  case setStop processor joins =>
    subst taken
    have halted : ∀ after : WaitQueue Thread, after.stop = Function.update queue.stop processor true →
        ¬after.Serves := by
      intro after stop serves
      have still := (serves processor).1
      rw [stop, Function.update_self] at still
      cases still
    exact ⟨fun serves => absurd serves (halted _ rfl), fun serves => absurd serves (halted _ rfl),
      fun _ _ => halted _ rfl⟩
  case shutdownLock processor joins => exact acquires here taken ⟨nofun, fun _ => rfl⟩
  case setMax processor joins =>
    subst taken
    exact served.setMax here
  case shutdownUnlock processor joins =>
    subst taken
    exact releases here ⟨nofun, nofun⟩
  case notifyAll processor joins =>
    subst taken
    have leads : Leads (queue.point thread) (if joins then .join processor else .idle) := by
      rw [here]
      cases joins <;> exact ⟨nofun, nofun⟩
    exact served.withMonitor (Monitor.related_notifyAll Leads Leads.refl leads_wakes leads)
  case join processor =>
    simp only [Option.ite_none_right_eq_some, Option.some.injEq] at taken
    obtain ⟨_, rfl⟩ := taken
    exact goes here ⟨nofun, nofun⟩

theorem Served.step [Fintype Thread] (served : queue.Served) (sound : queue.Sound) {event : WaitEvent Thread}
    (taken : queue.step event = some next) : next.Served := by
  cases event with
  | notify thread =>
    simp only [WaitQueue.step] at taken
    split at taken
    · rename_i here
      obtain rfl := Option.some.inj taken
      exact served.moveTo (here ▸ ⟨nofun, nofun⟩)
    · rename_i here
      obtain rfl := Option.some.inj taken
      exact served.moveTo (here ▸ ⟨nofun, nofun⟩)
    · cases taken
  | shutdown thread processor | stop thread processor =>
    simp only [WaitQueue.step, Option.ite_none_right_eq_some, Option.some.injEq] at taken
    obtain ⟨here, rfl⟩ := taken
    exact served.moveTo (here ▸ ⟨nofun, nofun⟩)
  | wakes thread =>
    obtain ⟨monitor, woke, rfl⟩ := Option.map_eq_some_iff.mp taken
    exact served.withMonitor (Monitor.related_wakes Leads Leads.refl leads_wakes woke)
  | step thread found expired woken => exact served.threadStep sound taken

variable [Fintype Thread]

theorem reached {processors : Thread → Bool} {events : List (WaitEvent Thread)}
    (ran : run step (start processors) events = some queue) : queue.Sound ∧ queue.Served := by
  refine run_invariant (fun queue _ => queue.Sound ∧ queue.Served) ?_
    ⟨start_sound processors, start_served processors⟩ ran
  intro queue _ event next taken ⟨sound, served⟩
  exact ⟨sound.step taken, served.step sound taken⟩

def steps (thread : Bool) (count : Nat) : List (WaitEvent Bool) :=
  List.replicate count (.step thread false false (some true))

/-- While a processor sleeps, either some thread is about to wake every processor, or for each unit of the count there is
    a thread of its own that is about to wake a processor or is awake in `Wait` and about to look at the count. At most
    one thread is inside the critical section. -/
theorem sleepers_attended {processors : Thread → Bool} {events : List (WaitEvent Thread)}
    (ran : run step (start processors) events = some queue) :
    (∀ thread other, (queue.point thread).inside = true → (queue.point other).inside = true → thread = other) ∧
    ∀ sleeper, queue.point sleeper = .asleep → (∃ thread, (queue.point thread).alerts = true) ∨
      ∃ threads : Finset Thread, queue.notify ≤ threads.card ∧ ∀ thread ∈ threads, (queue.point thread).astir = true := by
  obtain ⟨sound, _⟩ := reached ran
  refine ⟨fun thread other here there => Guarded.only sound.exclusive here there, fun sleeper asleep => ?_⟩
  refine sound.attended.imp_right fun attends => ?_
  obtain ⟨threads, enough, stir⟩ := attends ⟨sleeper, asleep⟩
  have nonneg := sound.nonneg
  exact ⟨threads, by omega, stir⟩

/-- The notification has not woken the processor yet. -/
def countedAsleep : List (WaitEvent Bool) := steps true 6 ++ .notify false :: steps false 3

theorem countedAsleep_attended : ∃ queue, run step (start id) countedAsleep = some queue ∧ queue.notify = 1 ∧
    queue.point true = .asleep ∧ ((∃ thread, (queue.point thread).alerts = true) ∨
      ∃ threads : Finset Bool, queue.notify ≤ threads.card ∧ ∀ thread ∈ threads, (queue.point thread).astir = true) := by
  have reached : (run step (start id) countedAsleep).any (fun queue =>
      decide (queue.notify = 1 ∧ queue.point true = .asleep)) = true := by
    decide +kernel
  obtain ⟨queue, ran, holds⟩ := (Option.any_eq_true _ _).mp reached
  obtain ⟨one, asleep⟩ := of_decide_eq_true holds
  exact ⟨queue, ran, one, asleep, (sleepers_attended ran).2 true asleep⟩

end WaitQueue

end CyberRT.Scheduler
