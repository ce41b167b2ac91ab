import CyberRT.Services.Worker

namespace CyberRT.Services

open Execution

namespace Worker

variable {Thread Request : Type} [DecidableEq Thread] {service next : Worker Thread Request}
  {thread : Thread} {target : WorkerPoint Request} {monitor : Monitor Thread (WorkerPoint Request)}

/-- While requests are served, there is a thread astir for each task whenever the worker sleeps. Nobody is about to block
    where `destroy` has entered the critical section, and nobody sleeps behind its notification. -/
structure Sound (service : Worker Thread Request) : Prop where
  exclusive : service.monitor.Exclusive
  attends : service.inited = true → service.monitor.Attends service.tasks.length
  blocks : ∀ thread, service.point thread = .block → service.tasks = []
  unset : ∀ thread, (service.point thread).unset = true → service.inited = false
  entered : ∀ thread other, service.point thread = .block → (service.point other).entered = false
  joins : ∀ thread other, service.point thread = .asleep → (service.point other).joins = false

theorem start_sound (worker : Thread) (tasks : List Request) : (start worker tasks).Sound := by
  have at_start : ∀ thread, (start worker tasks).point thread = .looping ∨ (start worker tasks).point thread = .idle := by
    intro thread
    simp only [start, point]
    split
    · exact .inl rfl
    · exact .inr rfl
  refine ⟨guarded_none fun thread inside => ?_, fun _ => Attended.of_awake fun thread asleep => ?_,
    fun thread block => ?_, fun thread unset => ?_, fun thread _ block => ?_, fun thread _ asleep => ?_⟩
  · rcases at_start thread with here | here <;> rw [show (start worker tasks).monitor.point thread = _ from here] at inside <;>
      cases inside
  · rcases at_start thread with here | here <;> rw [show (start worker tasks).monitor.point thread = _ from here] at asleep <;>
      cases asleep
  · rcases at_start thread with here | here <;> rw [here] at block <;> cases block
  · rcases at_start thread with here | here <;> rw [here] at unset <;> cases unset
  · rcases at_start thread with here | here <;> rw [here] at block <;> cases block
  · rcases at_start thread with here | here <;> rw [here] at asleep <;> cases asleep

/-- What the points of a thread have to keep for the others. -/
structure Calm (point next : WorkerPoint Request) : Prop where
  unset : next.unset = true → point.unset = true
  entered : next.entered = true → point.entered = true
  joins : next.joins = true → point.joins = true

theorem Calm.refl (point : WorkerPoint Request) : Calm point point := ⟨id, id, id⟩

theorem calm_wakes : Calm (.asleep : WorkerPoint Request) .relock := ⟨nofun, nofun, nofun⟩

/-- What a thread keeps when it goes on without touching the tasks. -/
structure Keeps (point next : WorkerPoint Request) : Prop extends Calm point next where
  block : next ≠ .block
  awake : next ≠ .asleep
  astir : point.astir = true → next.astir = true

/-- Nobody comes to block or to sleep. -/
def Rises (point next : WorkerPoint Request) : Prop :=
  (next = .block → point = .block) ∧ (next = .asleep → point = .asleep)

theorem Keeps.rises {point target : WorkerPoint Request} (keeps : Keeps point target) : Rises point target :=
  ⟨fun blocks => absurd blocks keeps.block, fun sleeps => absurd sleeps keeps.awake⟩

theorem Rises.refl (point : WorkerPoint Request) : Rises point point := ⟨id, id⟩

theorem rises_wakes : Rises (.asleep : WorkerPoint Request) .relock := ⟨nofun, nofun⟩

theorem eq_false_of_imp {first second : Bool} (imp : second = true → first = true) (without : first = false) :
    second = false := by
  cases second with
  | false => rfl
  | true => exact (imp rfl).symm.trans without

omit [DecidableEq Thread] in
theorem Sound.of_calm (sound : service.Sound) (calm : ∀ other, Calm (service.point other) (next.point other))
    (exclusive : next.monitor.Exclusive) (inited : next.inited = service.inited)
    (attends : next.inited = true → next.monitor.Attends next.tasks.length)
    (blocks : ∀ thread, next.point thread = .block → next.tasks = [] ∧ ∀ other, (service.point other).entered = false)
    (asleep : ∀ thread, next.point thread = .asleep → ∀ other, (service.point other).joins = false) : next.Sound where
  exclusive := exclusive
  attends := attends
  blocks blocker blocked := (blocks blocker blocked).1
  unset other here := by
    rw [inited]
    exact sound.unset other ((calm other).unset here)
  entered blocker other blocked := eq_false_of_imp (calm other).entered ((blocks blocker blocked).2 other)
  joins sleeper other sleeps := eq_false_of_imp (calm other).joins (asleep sleeper sleeps other)

omit [DecidableEq Thread] in
theorem Sound.frame (sound : service.Sound) (calm : ∀ other, Calm (service.point other) (next.point other))
    (rises : ∀ other, Rises (service.point other) (next.point other)) (exclusive : next.monitor.Exclusive)
    (inited : next.inited = service.inited) (tasks : next.tasks = service.tasks)
    (attends : service.monitor.Attends service.tasks.length → next.monitor.Attends service.tasks.length) :
    next.Sound := by
  refine sound.of_calm calm exclusive inited ?_ ?_ ?_
  · intro served
    rw [inited] at served
    rw [tasks]
    exact attends (sound.attends served)
  · intro blocker blocked
    rw [tasks]
    have before := (rises blocker).1 blocked
    exact ⟨sound.blocks blocker before, fun other => sound.entered blocker other before⟩
  · exact fun sleeper sleeps other => sound.joins sleeper other ((rises sleeper).2 sleeps)

theorem Sound.moveTo (sound : service.Sound) (keeps : Keeps (service.point thread) target)
    (same : target.inside = (service.point thread).inside) : (service.moveTo thread target).Sound :=
  sound.frame (Monitor.related_moveTo Calm Calm.refl keeps.toCalm) (Monitor.related_moveTo Rises Rises.refl keeps.rises)
    (sound.exclusive.moveTo same) rfl rfl fun attends => attends.moveTo keeps.awake keeps.astir

theorem Sound.acquire (sound : service.Sound) (keeps : Keeps (service.point thread) target)
    (enters : target.inside = true) (taken : service.acquire thread target = some next) : next.Sound := by
  obtain ⟨monitor, locked, rfl⟩ := Option.map_eq_some_iff.mp taken
  exact sound.frame (Monitor.related_acquire Calm Calm.refl locked keeps.toCalm)
    (Monitor.related_acquire Rises Rises.refl locked keeps.rises) (sound.exclusive.acquire locked enters) rfl rfl
    fun attends => attends.acquire locked keeps.awake keeps.astir

theorem Sound.release (sound : service.Sound) (keeps : Keeps (service.point thread) target)
    (inside : (service.point thread).inside = true) (leaves : target.inside = false) :
    (service.release thread target).Sound :=
  sound.frame (Monitor.related_moveTo Calm Calm.refl keeps.toCalm) (Monitor.related_moveTo Rises Rises.refl keeps.rises)
    (sound.exclusive.release inside leaves) rfl rfl fun attends => attends.release keeps.awake keeps.astir

theorem unset_of_entered {point : WorkerPoint Request} (entered : point.entered = true) : point.unset = true := by
  cases point <;> first | rfl | cases entered

theorem entered_of_joins {point : WorkerPoint Request} (joins : point.joins = true) : point.entered = true := by
  cases point <;> first | rfl | cases joins

omit [DecidableEq Thread] in
/-- While the service is initialised, `destroy` has not entered the critical section. -/
theorem Sound.not_entered (sound : service.Sound) (inited : service.inited = true) (other : Thread) :
    (service.point other).entered = false := by
  cases entered : (service.point other).entered with
  | false => rfl
  | true =>
    have unset := sound.unset other (unset_of_entered entered)
    rw [inited] at unset
    cases unset

omit [DecidableEq Thread] in
/-- Two threads are not inside the critical section at the same time. -/
theorem Sound.not_block (sound : service.Sound) (inside : (service.point thread).inside = true)
    (here : service.point thread ≠ .block) (other : Thread) : service.point other ≠ .block := by
  intro blocked
  have there : (service.point other).inside = true := by
    rw [blocked]
    rfl
  rw [Guarded.only sound.exclusive there inside] at blocked
  exact here blocked

theorem calm_moveTo {point : WorkerPoint Request} (here : service.point thread = point) (calm : Calm point target)
    (other : Thread) : Calm (service.point other) ((service.moveTo thread target).point other) :=
  Monitor.related_moveTo Calm Calm.refl (show Calm (service.point thread) target by rw [here]; exact calm) other

/-- Only the thread that moves comes to another point. -/
theorem point_of_moveTo {point : WorkerPoint Request} {other : Thread}
    (there : (service.moveTo thread target).point other = point) (apart : target ≠ point) : service.point other = point :=
  Monitor.related_moveTo (fun before after : WorkerPoint Request => after = point → before = point) (fun _ => id)
    (fun same => absurd same apart) other there

theorem off_moveTo (value : WorkerPoint Request → Bool) (off : value target = false) {other : Thread}
    (before : value (service.point other) = false) : value ((service.moveTo thread target).point other) = false :=
  eq_false_of_imp (Monitor.related_moveTo (fun point next => value next = true → value point = true) (fun _ => id)
    (by simp [off]) other) before

theorem Sound.check (sound : service.Sound) (here : service.point thread = .check) :
    (service.moveTo thread (if !service.inited || !service.tasks.isEmpty then .testInited else .block)).Sound := by
  split
  · exact sound.moveTo (here ▸ ⟨⟨nofun, nofun, nofun⟩, nofun, nofun, fun _ => rfl⟩) (here ▸ rfl)
  · rename_i waits
    simp only [Bool.or_eq_true, Bool.not_eq_true', not_or, Bool.not_eq_false, List.isEmpty_iff] at waits
    obtain ⟨inited, empty⟩ := waits
    refine sound.of_calm (calm_moveTo here ⟨nofun, nofun, nofun⟩)
      (sound.exclusive.moveTo (congrArg WorkerPoint.inside here).symm) rfl (fun _ => ?_)
      (fun _ _ => ⟨empty, sound.not_entered inited⟩) ?_
    · show Monitor.Attends _ service.tasks.length
      rw [empty]
      exact Monitor.attends_zero
    · exact fun sleeper sleeps other => sound.joins sleeper other (point_of_moveTo sleeps nofun)

/-- The worker blocks while no request waits and `destroy` is still without the mutex. -/
theorem Sound.block (sound : service.Sound) (here : service.point thread = .block) :
    (service.release thread .asleep).Sound := by
  refine sound.of_calm (calm_moveTo here ⟨nofun, nofun, nofun⟩)
    (sound.exclusive.release (congrArg WorkerPoint.inside here) rfl) rfl (fun _ => ?_) (fun blocker blocked => ?_) ?_
  · show Monitor.Attends _ service.tasks.length
    rw [sound.blocks thread here]
    exact Monitor.attends_zero
  · have before : service.point blocker = .block := point_of_moveTo blocked nofun
    exact ⟨sound.blocks thread here, fun other => sound.entered blocker other before⟩
  · exact fun _ _ other => eq_false_of_imp entered_of_joins (sound.entered thread other here)

theorem Sound.popFront (sound : service.Sound) (here : service.point thread = .popFront) {task : Request}
    {tasks : List Request} (front : service.tasks = task :: tasks) :
    { service.moveTo thread (.unlock task) with tasks := tasks, handled := service.handled ++ [task] }.Sound := by
  have nobody : ∀ other, service.point other ≠ .block :=
    sound.not_block (congrArg WorkerPoint.inside here) (by rw [here]; nofun)
  refine sound.of_calm (calm_moveTo here ⟨nofun, nofun, nofun⟩)
    (sound.exclusive.moveTo (congrArg WorkerPoint.inside here).symm) rfl (fun inited => ?_) (fun blocker blocked => ?_) ?_
  · have attends := sound.attends inited
    rw [front] at attends
    exact attends.take nofun
  · exact absurd (point_of_moveTo blocked nofun) (nobody blocker)
  · exact fun sleeper sleeps other => sound.joins sleeper other (point_of_moveTo sleeps nofun)

theorem Sound.emplaceBack (sound : service.Sound) {task : Request} (here : service.point thread = .emplaceBack task) :
    { service.moveTo thread .notifyOne with
      tasks := service.tasks ++ [task], enqueued := service.enqueued ++ [task] }.Sound := by
  have nobody : ∀ other, service.point other ≠ .block :=
    sound.not_block (congrArg WorkerPoint.inside here) (by rw [here]; nofun)
  refine sound.of_calm (calm_moveTo here ⟨nofun, nofun, nofun⟩)
    (sound.exclusive.moveTo (congrArg WorkerPoint.inside here).symm) rfl (fun inited => ?_) (fun blocker blocked => ?_) ?_
  · show Monitor.Attends _ (service.tasks ++ [task]).length
    rw [List.length_append]
    exact (sound.attends inited).post nofun (congrArg WorkerPoint.astir here) rfl
  · exact absurd (point_of_moveTo blocked nofun) (nobody blocker)
  · exact fun sleeper sleeps other => sound.joins sleeper other (point_of_moveTo sleeps nofun)

/-- A thread that goes on where requests are served no more need not stay astir. -/
theorem Sound.without (sound : service.Sound) (idles : service.inited = false ∨ service.tasks = [])
    (calm : Calm (service.point thread) target) (rises : Rises (service.point thread) target)
    (same : monitor.point = (service.monitor.moveTo thread target).point) (exclusive : monitor.Exclusive) :
    (service.withMonitor monitor).Sound := by
  have points : ∀ other, (service.withMonitor monitor).point other = (service.moveTo thread target).point other :=
    fun other => congrFun same other
  refine sound.of_calm (fun other => ?_) exclusive rfl (fun inited => ?_) (fun blocker blocked => ?_) ?_
  · rw [points]
    exact calm_moveTo rfl calm other
  · rcases idles with unset | empty
    · rw [show service.inited = true from inited] at unset
      cases unset
    · show Monitor.Attends _ service.tasks.length
      rw [empty]
      exact Monitor.attends_zero
  · rw [points] at blocked
    have before := (Monitor.related_moveTo Rises Rises.refl rises blocker).1 blocked
    exact ⟨sound.blocks blocker before, fun other => sound.entered blocker other before⟩
  · intro sleeper sleeps other
    rw [points] at sleeps
    exact sound.joins sleeper other ((Monitor.related_moveTo Rises Rises.refl rises sleeper).2 sleeps)

theorem Sound.unsetInited (sound : service.Sound) (here : service.point thread = .unsetInited) :
    { service.moveTo thread .clearLock with inited := false }.Sound where
  exclusive := sound.exclusive.moveTo (congrArg WorkerPoint.inside here).symm
  attends := nofun
  blocks blocker blocked := sound.blocks blocker (point_of_moveTo blocked nofun)
  unset _ _ := rfl
  entered blocker other blocked :=
    off_moveTo WorkerPoint.entered rfl (sound.entered blocker other (point_of_moveTo blocked nofun))
  joins sleeper other sleeps :=
    off_moveTo WorkerPoint.joins rfl (sound.joins sleeper other (point_of_moveTo sleeps nofun))

/-- `destroy` gets the mutex while nobody is about to block. -/
theorem Sound.clearLock (sound : service.Sound) (here : service.point thread = .clearLock)
    (taken : service.acquire thread .clear = some next) : next.Sound := by
  obtain ⟨monitor, locked, rfl⟩ := Option.map_eq_some_iff.mp taken
  have free : service.monitor.owner = none := by
    by_contra owned
    simp [Monitor.acquire, owned] at locked
  have nobody : ∀ other, service.point other ≠ .block := by
    intro other blocked
    have inside : (service.point other).inside = true := by
      rw [blocked]
      rfl
    have owned := (sound.exclusive other).mp inside
    rw [free] at owned
    cases owned
  have moved : monitor.point = (service.monitor.moveTo thread .clear).point := by
    simp only [Monitor.acquire, free, if_true, Option.some.injEq] at locked
    rw [← locked]
  have points : ∀ other, (service.withMonitor monitor).point other = (service.moveTo thread .clear).point other :=
    fun other => congrFun moved other
  have unset := sound.unset thread (by rw [here]; rfl)
  refine ⟨sound.exclusive.acquire locked rfl, ?_, ?_, fun _ _ => unset, ?_, ?_⟩
  · intro inited
    rw [show service.inited = true from inited] at unset
    cases unset
  · intro blocker blocked
    rw [points] at blocked
    exact absurd (point_of_moveTo blocked nofun) (nobody blocker)
  · intro blocker other blocked
    rw [points] at blocked
    exact absurd (point_of_moveTo blocked nofun) (nobody blocker)
  · intro sleeper other sleeps
    rw [points] at sleeps ⊢
    exact off_moveTo WorkerPoint.joins rfl (sound.joins sleeper other (point_of_moveTo sleeps nofun))

theorem Sound.clear (sound : service.Sound) (here : service.point thread = .clear) :
    { service.moveTo thread .clearUnlock with tasks := [], cleared := true }.Sound := by
  have nobody : ∀ other, service.point other ≠ .block :=
    sound.not_block (congrArg WorkerPoint.inside here) (by rw [here]; nofun)
  refine sound.of_calm (calm_moveTo here ⟨fun _ => rfl, fun _ => rfl, nofun⟩)
    (sound.exclusive.moveTo (congrArg WorkerPoint.inside here).symm) rfl (fun _ => Monitor.attends_zero) ?_ ?_
  · exact fun blocker blocked => absurd (point_of_moveTo blocked nofun) (nobody blocker)
  · exact fun sleeper sleeps other => sound.joins sleeper other (point_of_moveTo sleeps nofun)

theorem Sound.notifyAll [DecidableEq Request] (sound : service.Sound) (here : service.point thread = .notifyAll) :
    (service.withMonitor (service.monitor.notifyAll thread .threadJoinable)).Sound := by
  have awake : ∀ other, (service.monitor.notifyAll thread .threadJoinable).point other ≠ .asleep :=
    Monitor.awake_notifyAll nofun
  have blocked_before : ∀ other, (service.monitor.notifyAll thread .threadJoinable).point other = .block →
      service.point other = .block := by
    refine Monitor.related_notifyAll (fun before after : WorkerPoint Request => after = .block → before = .block)
      (fun _ => id) ?_ ?_ <;> exact fun same => by cases same
  have nobody : ∀ other, (service.monitor.notifyAll thread .threadJoinable).point other ≠ .block := by
    intro blocker blocked
    have entered := sound.entered blocker thread (blocked_before blocker blocked)
    rw [here] at entered
    cases entered
  refine ⟨sound.exclusive.notifyAll (congrArg WorkerPoint.inside here).symm, fun _ => Attended.of_awake awake,
    fun blocker blocked => absurd blocked (nobody blocker), ?_, fun blocker _ blocked => absurd blocked (nobody blocker),
    fun sleeper _ sleeps => absurd sleeps (awake sleeper)⟩
  intro other unset
  exact sound.unset other (Monitor.related_notifyAll
    (fun before after : WorkerPoint Request => after.unset = true → before.unset = true) (fun _ => id)
    (fun same => by cases same) (fun _ => congrArg WorkerPoint.unset here) other unset)

theorem Sound.threadStep [Fintype Thread] [DecidableEq Request] (sound : service.Sound) {isShutdown : Bool}
    {woken : Option Thread} (taken : service.threadStep thread isShutdown woken = some next) : next.Sound := by
  have goes : ∀ {point target : WorkerPoint Request}, service.point thread = point → Keeps point target →
      target.inside = point.inside → (service.moveTo thread target).Sound := by
    intro point target here keeps same
    exact sound.moveTo (here ▸ keeps) (here ▸ same)
  have acquires : ∀ {point target : WorkerPoint Request}, service.point thread = point →
      service.acquire thread target = some next → Keeps point target → target.inside = true → next.Sound := by
    intro point target here taken keeps enters
    exact sound.acquire (here ▸ keeps) enters taken
  have releases : ∀ {point target : WorkerPoint Request}, service.point thread = point → Keeps point target →
      point.inside = true → target.inside = false → (service.release thread target).Sound := by
    intro point target here keeps inside leaves
    exact sound.release (here ▸ keeps) (here ▸ inside) leaves
  unfold Worker.threadStep at taken
  cases here : service.point thread <;> simp only [here, Option.some.injEq] at taken
  case idle | asleep | exited => cases taken
  case looping =>
    subst taken
    split <;> exact goes here ⟨⟨nofun, nofun, nofun⟩, nofun, nofun, nofun⟩ rfl
  case lock => exact acquires here taken ⟨⟨nofun, nofun, nofun⟩, nofun, nofun, nofun⟩ rfl
  case relock => exact acquires here taken ⟨⟨nofun, nofun, nofun⟩, nofun, nofun, fun _ => rfl⟩ rfl
  case check =>
    subst taken
    exact sound.check here
  case block =>
    subst taken
    exact sound.block here
  case testInited =>
    subst taken
    split
    · exact goes here ⟨⟨nofun, nofun, nofun⟩, nofun, nofun, fun _ => rfl⟩ rfl
    · rename_i unset
      exact sound.without (.inl (by simpa using unset)) (here ▸ ⟨nofun, nofun, nofun⟩) (here ▸ ⟨nofun, nofun⟩) rfl
        (sound.exclusive.moveTo (congrArg WorkerPoint.inside here).symm)
  case popFront =>
    split at taken
    · rename_i empty
      obtain rfl := Option.some.inj taken
      exact sound.without (.inr empty) (here ▸ ⟨nofun, nofun, nofun⟩) (here ▸ ⟨nofun, nofun⟩) rfl
        (sound.exclusive.release (congrArg WorkerPoint.inside here) rfl)
    · rename_i task tasks front
      obtain rfl := Option.some.inj taken
      exact sound.popFront here front
  case unlock task =>
    subst taken
    exact releases here ⟨⟨nofun, nofun, nofun⟩, nofun, nofun, nofun⟩ rfl rfl
  case handle task =>
    subst taken
    exact goes here ⟨⟨nofun, nofun, nofun⟩, nofun, nofun, nofun⟩ rfl
  case leave =>
    subst taken
    exact releases here ⟨⟨nofun, nofun, nofun⟩, nofun, nofun, nofun⟩ rfl rfl
  case enqueueLock task => exact acquires here taken ⟨⟨nofun, nofun, nofun⟩, nofun, nofun, nofun⟩ rfl
  case emplaceBack task =>
    subst taken
    exact sound.emplaceBack here
  case notifyOne =>
    obtain ⟨monitor, notified, rfl⟩ := Option.map_eq_some_iff.mp taken
    have keeps : Calm (service.point thread) .enqueueUnlock ∧ Rises (service.point thread) .enqueueUnlock := by
      rw [here]
      exact ⟨⟨nofun, nofun, nofun⟩, nofun, nofun⟩
    exact sound.frame (Monitor.related_notifyOne Calm Calm.refl calm_wakes notified keeps.1)
      (Monitor.related_notifyOne Rises Rises.refl rises_wakes notified keeps.2)
      (sound.exclusive.notifyOne notified (congrArg WorkerPoint.inside here).symm) rfl rfl
      fun attends => attends.notifyOne (show (.enqueueUnlock : WorkerPoint Request) ≠ .asleep by nofun) notified
  case enqueueUnlock =>
    subst taken
    exact releases here ⟨⟨nofun, nofun, nofun⟩, nofun, nofun, nofun⟩ rfl rfl
  case unsetInited =>
    subst taken
    exact sound.unsetInited here
  case clearLock => exact sound.clearLock here taken
  case clear =>
    subst taken
    exact sound.clear here
  case clearUnlock =>
    subst taken
    exact releases here ⟨⟨fun _ => rfl, fun _ => rfl, nofun⟩, nofun, nofun, nofun⟩ rfl rfl
  case notifyAll =>
    subst taken
    exact sound.notifyAll here
  case threadJoinable =>
    subst taken
    split
    · exact goes here ⟨⟨fun _ => rfl, fun _ => rfl, fun _ => rfl⟩, nofun, nofun, nofun⟩ rfl
    · exact goes here ⟨⟨nofun, nofun, nofun⟩, nofun, nofun, nofun⟩ rfl
  case join =>
    simp only [Option.ite_none_right_eq_some, Option.some.injEq] at taken
    obtain ⟨_, rfl⟩ := taken
    have moved : (service.moveTo thread .idle).Sound :=
      goes here ⟨⟨nofun, nofun, nofun⟩, nofun, nofun, nofun⟩ rfl
    exact ⟨moved.exclusive, moved.attends, moved.blocks, moved.unset, moved.entered, moved.joins⟩

theorem Sound.step [Fintype Thread] [DecidableEq Request] (sound : service.Sound) {event : WorkerEvent Thread Request}
    (taken : service.step event = some next) : next.Sound := by
  cases event with
  | enqueue thread task | destroy thread =>
    simp only [Worker.step, Option.ite_none_right_eq_some, Option.some.injEq] at taken
    obtain ⟨here, rfl⟩ := taken
    exact sound.moveTo (here ▸ ⟨⟨nofun, nofun, nofun⟩, nofun, nofun, nofun⟩) (here ▸ rfl)
  | wakes thread =>
    obtain ⟨monitor, woke, rfl⟩ := Option.map_eq_some_iff.mp taken
    exact sound.frame (Monitor.related_wakes Calm Calm.refl calm_wakes woke)
      (Monitor.related_wakes Rises Rises.refl rises_wakes woke) (sound.exclusive.wakes woke) rfl rfl
      fun attends => attends.wakes woke
  | step thread isShutdown woken => exact sound.threadStep taken

end Worker

end CyberRT.Services
