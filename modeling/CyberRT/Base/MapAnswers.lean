import Mathlib.Order.Nat
import CyberRT.Base.MapSteps

namespace CyberRT.Base

open Execution Lists MapMemory

namespace AtomicHashMap

variable {Thread Key Value : Type} [LinearOrder Key] [DecidableEq Thread] {traits : TableTraits Key}
  {map next : AtomicHashMap Thread Key Value} {chains : Nat → List Nat} {past : List (MapEvent Thread Key Value)}
  {thread : Thread} {call : Call Key Value} {key : Key}

/-- What an answer says about the memory and the calls before it. -/
def Answers (traits : TableTraits Key) (memory : MapMemory Key Value) (past : List (MapEvent Thread Key Value)) :
    Operation Key Value → Result Value → Prop
  | .has key, .has found => found = true ↔ memory.Present traits key
  | .get key, .get none => ¬memory.Present traits key
  | .get key, .get (some value) =>
    memory.Present traits key ∧ ∃ stored, value = some stored ∧ MapMemory.Stored past key stored
  | .set _ _ _, .set => True
  | _, _ => False

/-- The call goes on, with what it began with. -/
def Goes (map next : AtomicHashMap Thread Key Value) (thread : Thread) (call : Call Key Value) : Prop :=
  ∃ now, next.call = Function.update map.call thread (some now) ∧ now.before = call.before ∧
    next.completed = map.completed

/-- The call returns, a `Set` with its key in the table. -/
def Returns (traits : TableTraits Key) (map next : AtomicHashMap Thread Key Value)
    (past : List (MapEvent Thread Key Value)) (thread : Thread) (call : Call Key Value) : Prop :=
  ∃ result, next.call = Function.update map.call thread none ∧
    next.completed = map.completed ++ [⟨call.operation, result, call.before⟩] ∧
    Answers traits map.toMapMemory past call.operation result ∧
    ∀ key value rvalue, call.operation = .set key value rvalue → next.Present traits key

omit [LinearOrder Key] in
theorem goes_moveTo (map : AtomicHashMap Thread Key Value) (memory : MapMemory Key Value) (thread : Thread)
    {call now : Call Key Value} (before : now.before = call.before) (point : MapPoint) :
    map.Goes ((map.setMemory memory).moveTo thread now point) thread call :=
  ⟨{ now with point := point }, rfl, before, rfl⟩

omit [LinearOrder Key] in
theorem returns_lookup (map : AtomicHashMap Thread Key Value) (thread : Thread) (call : Call Key Value)
    {result : Result Value} (asks : ∀ key value rvalue, call.operation ≠ .set key value rvalue)
    (answers : Answers traits map.toMapMemory past call.operation result) :
    Returns traits map (map.return_ thread call result) past thread call :=
  ⟨result, rfl, rfl, answers, fun key value rvalue same => absurd same (asks key value rvalue)⟩

omit [DecidableEq Thread] in
theorem Sound.present_of_member (sound : map.Sound traits chains past) {target : Nat}
    (member : target ∈ chains (traits.index key)) (same : (map.entry target).key = key) : map.Present traits key :=
  (sound.shaped.present_iff key).mpr ⟨target, member, same⟩

theorem Sound.has_answers (sound : map.Sound traits chains past) {prev : Nat}
    (operation : call.operation = .has key) (precedes : map.Precedes traits chains key prev) :
    map.Goes (map.hasStep thread call key (map.next prev)) thread call ∨
      Returns traits map (map.hasStep thread call key (map.next prev)) past thread call := by
  have asks : ∀ key value rvalue, call.operation ≠ .set key value rvalue := by simp [operation]
  cases loaded : map.next prev with
  | none =>
    have absent := sound.shaped.absent_of_none precedes loaded
    right
    apply returns_lookup map thread call asks
    rw [operation]
    show false = true ↔ _
    simp [absent]
  | some target =>
    have member := sound.shaped.mem_of_next precedes loaded
    simp only [AtomicHashMap.hasStep]
    split
    · left
      exact goes_moveTo map map.toMapMemory thread rfl _
    · rename_i notLess
      right
      apply returns_lookup map thread call asks
      rw [operation]
      show decide _ = true ↔ _
      rw [decide_eq_true_eq]
      constructor
      · exact sound.present_of_member member
      · intro present
        by_contra differs
        have larger := lt_of_le_of_ne (not_lt.mp notLess) (Ne.symm differs)
        exact sound.shaped.absent_of_larger precedes loaded larger present

theorem Sound.find_answers (sound : map.Sound traits chains past) {prev : Nat}
    (precedes : map.Precedes traits chains key prev) (notFound : Nat → Option Nat → AtomicHashMap Thread Key Value)
    (otherwise : ¬map.Present traits key → ∀ target, map.Goes (notFound prev target) thread call ∨
      Returns traits map (notFound prev target) past thread call) :
    map.Goes (map.findStep thread call key prev notFound (map.next prev)) thread call ∨
      Returns traits map (map.findStep thread call key prev notFound (map.next prev)) past thread call := by
  cases loaded : map.next prev with
  | none => exact otherwise (sound.shaped.absent_of_none precedes loaded) none
  | some target =>
    simp only [AtomicHashMap.findStep]
    split
    · left
      exact goes_moveTo map map.toMapMemory thread rfl _
    · split
      · rename_i larger
        exact otherwise (sound.shaped.absent_of_larger precedes loaded larger) (some target)
      · left
        exact goes_moveTo map map.toMapMemory thread rfl _

theorem Sound.search_answers (sound : map.Sound traits chains past) (running : map.call thread = some call) {prev : Nat}
    (here : call.point = .search prev) :
    map.Goes (map.searchStep thread call prev) thread call ∨
      Returns traits map (map.searchStep thread call prev) past thread call := by
  have precedes : map.Precedes traits chains call.operation.key prev := by
    have point := (sound.fits thread call running).point
    rwa [here] at point
  unfold AtomicHashMap.searchStep
  cases operation : call.operation with
  | has key =>
    rw [operation] at precedes
    exact sound.has_answers operation precedes
  | get key =>
    rw [operation] at precedes
    apply sound.find_answers precedes
    intro absent _
    right
    apply returns_lookup map thread call (by simp [operation])
    rw [operation]
    exact absent
  | set key value rvalue =>
    rw [operation] at precedes
    apply sound.find_answers precedes
    intro _ target
    left
    exact goes_moveTo map map.toMapMemory thread rfl _

theorem Sound.load_answers (sound : map.Sound traits chains past) (running : map.call thread = some call) {target : Nat}
    (here : call.point = .loadValue target) :
    map.Goes (map.loadValueStep thread call target) thread call ∨
      Returns traits map (map.loadValueStep thread call target) past thread call := by
  have fits := sound.fits thread call running
  have found : map.PointFits traits chains call.operation.key (.loadValue target) := by
    rw [← here]
    exact fits.point
  unfold AtomicHashMap.loadValueStep
  split
  · left
    split
    · exact goes_moveTo map map.toMapMemory thread rfl _
    · exact goes_moveTo map _ thread rfl _
  · rename_i notSet
    right
    apply returns_lookup map thread call notSet
    cases operation : call.operation with
    | has key => exact absurd operation (fits.loading target here key)
    | get key =>
      rw [operation] at found
      refine ⟨sound.present_of_member found.1 found.2, ?_⟩
      have carries := sound.carried _ (traits.index_lt key) target found.1
      rw [found.2] at carries
      obtain ⟨address, value, leads, held, stored⟩ := carries
      exact ⟨value, by simp [leads, held], stored⟩
    | set key value rvalue => exact absurd operation (notSet key value rvalue)

theorem present_grow {memory memory' : MapMemory Key Value} {chains' : Nat → List Nat} (shaped : memory.Shaped traits chains)
    (shaped' : memory'.Shaped traits chains') (more : ∀ bucket, chains bucket ⊆ chains' bucket)
    (keys : ∀ address, address < memory.allocated → (memory'.entry address).key = (memory.entry address).key)
    (present : memory.Present traits key) : memory'.Present traits key := by
  obtain ⟨address, member, same⟩ := (shaped.present_iff key).mp present
  apply (shaped'.present_iff key).mpr
  refine ⟨address, more _ member, ?_⟩
  rw [keys address (shaped.member_below member)]
  exact same

omit [LinearOrder Key] in
theorem keys_storeNext (map : AtomicHashMap Thread Key Value) (thread : Thread) (call : Call Key Value) (prev : Nat)
    (target : Option Nat) {address : Nat} (below : address < map.allocated) :
    ((map.storeNextStep thread call prev target).entry address).key = (map.entry address).key := by
  unfold AtomicHashMap.storeNextStep
  split
  · exact keys_setEntry map.toMapMemory _ address rfl
  · show (((map.newValue _).setEntry map.allocated _).entry address).key = _
    rw [entry_setEntry, if_neg (Nat.ne_of_lt below)]
    rfl
  · rfl

omit [LinearOrder Key] in
theorem keys_loadValue (map : AtomicHashMap Thread Key Value) (thread : Thread) (call : Call Key Value)
    (target address : Nat) : ((map.loadValueStep thread call target).entry address).key = (map.entry address).key := by
  unfold AtomicHashMap.loadValueStep
  split
  · split <;> rfl
  · rfl

theorem keys_findStep (map : AtomicHashMap Thread Key Value) (thread : Thread) (call : Call Key Value) (key : Key)
    (prev : Nat) (notFound : Nat → Option Nat → AtomicHashMap Thread Key Value)
    (kept : ∀ target address, ((notFound prev target).entry address).key = (map.entry address).key)
    (loaded : Option Nat) (address : Nat) :
    ((map.findStep thread call key prev notFound loaded).entry address).key = (map.entry address).key := by
  cases loaded with
  | none => exact kept none address
  | some target =>
    simp only [AtomicHashMap.findStep]
    split
    · rfl
    · split
      · exact kept (some target) address
      · rfl

theorem keys_searchStep (map : AtomicHashMap Thread Key Value) (thread : Thread) (call : Call Key Value)
    (prev address : Nat) : ((map.searchStep thread call prev).entry address).key = (map.entry address).key := by
  unfold AtomicHashMap.searchStep
  split
  · cases map.next prev with
    | none => rfl
    | some target =>
      simp only [AtomicHashMap.hasStep]
      split <;> rfl
  · exact keys_findStep map thread call _ prev _ (fun _ _ => rfl) _ address
  · exact keys_findStep map thread call _ prev _ (fun _ _ => rfl) _ address

theorem keys_access (map : AtomicHashMap Thread Key Value) (traits : TableTraits Key) (thread : Thread)
    (call : Call Key Value) {address : Nat} (below : address < map.allocated) :
    ((map.access traits thread call).entry address).key = (map.entry address).key := by
  unfold AtomicHashMap.access
  split
  · exact keys_searchStep map thread call _ address
  · exact keys_loadValue map thread call _ address
  · unfold AtomicHashMap.exchangeValueStep
    split
    · exact keys_setEntry map.toMapMemory _ address rfl
    · rfl
  · exact keys_storeNext map thread call _ _ below
  · unfold AtomicHashMap.exchangeNextStep
    split
    · exact keys_setEntry map.toMapMemory _ address rfl
    · rfl

theorem Sound.present_access (sound : map.Sound traits chains past) (running : map.call thread = some call)
    (present : map.Present traits key) : (map.access traits thread call).Present traits key := by
  obtain ⟨chains', sound', more⟩ := sound.access running
  have shaped := AtomicHashMap.Sound.shaped sound'
  exact present_grow sound.shaped shaped more (fun _ below => keys_access map traits thread call below) present

theorem Sound.exchangeValue_answers (sound : map.Sound traits chains past) (running : map.call thread = some call)
    {target : Nat} {oldValPtr : Option Nat} (here : call.point = .exchangeValue target oldValPtr) :
    map.Goes (map.exchangeValueStep traits thread call target oldValPtr) thread call ∨
      Returns traits map (map.exchangeValueStep traits thread call target oldValPtr) past thread call := by
  have fits := sound.fits thread call running
  have found : map.PointFits traits chains call.operation.key (.exchangeValue target oldValPtr) := by
    rw [← here]
    exact fits.point
  obtain ⟨⟨key, value, rvalue, operation⟩, -⟩ := fits.exchanging target oldValPtr here
  have present := sound.present_access running (sound.present_of_member found.1 found.2)
  have taken : map.access traits thread call = map.exchangeValueStep traits thread call target oldValPtr := by
    simp only [AtomicHashMap.access, here]
  rw [taken] at present
  unfold AtomicHashMap.exchangeValueStep at present ⊢
  split
  · rename_i current
    rw [if_pos current, operation] at present
    right
    refine ⟨.set, rfl, rfl, ?_, ?_⟩
    · rw [operation]
      trivial
    · intro key' value' rvalue' same
      cases operation.symm.trans same
      exact present
  · left
    exact goes_moveTo map map.toMapMemory thread rfl _

theorem Sound.exchangeNext_answers (sound : map.Sound traits chains past) (running : map.call thread = some call)
    {prev : Nat} {target : Option Nat} (here : call.point = .exchangeNext prev target) :
    map.Goes (map.exchangeNextStep traits thread call prev target) thread call ∨
      Returns traits map (map.exchangeNextStep traits thread call prev target) past thread call := by
  have fits := sound.fits thread call running
  have found : map.PointFits traits chains call.operation.key (.exchangeNext prev target) := by
    rw [← here]
    exact fits.point
  obtain ⟨⟨key, value, rvalue, operation⟩, -⟩ := fits.storing prev target (Or.inr here)
  obtain ⟨new, made, leads⟩ := fits.linking prev target here
  have entry := fits.newEntry new made
  unfold AtomicHashMap.exchangeNextStep
  split
  · rename_i current
    rw [← current] at found leads
    obtain ⟨chain, shaped, members⟩ := sound.shaped.insert found.1 entry.fresh entry.apart entry.named leads
      fun address leads => (found.2 address leads).2
    have present : (map.setEntry prev { map.entry prev with next := some new }).Present traits call.operation.key := by
      apply (shaped.present_iff _).mpr
      refine ⟨new, ?_, ?_⟩
      · rw [Function.update_self]
        exact (members new).mpr (Or.inl rfl)
      · have kept : ((map.setEntry prev { map.entry prev with next := some new }).entry new).key = (map.entry new).key :=
          keys_setEntry map.toMapMemory prev new rfl
        exact kept.trans entry.named
    right
    refine ⟨.set, rfl, rfl, ?_, ?_⟩
    · rw [operation]
      trivial
    · intro key' value' rvalue' same
      rw [same, ← made] at present
      exact present
  · left
    exact goes_moveTo map map.toMapMemory thread rfl _

theorem Sound.storeNext_goes (sound : map.Sound traits chains past) (running : map.call thread = some call)
    {prev : Nat} {target : Option Nat} (here : call.point = .storeNext prev target) :
    map.Goes (map.storeNextStep thread call prev target) thread call := by
  obtain ⟨⟨key, value, rvalue, operation⟩, -⟩ := (sound.fits thread call running).storing prev target (Or.inl here)
  unfold AtomicHashMap.storeNextStep
  split
  · exact goes_moveTo map _ thread rfl _
  · exact goes_moveTo map _ thread rfl _
  · rename_i notSet
    exact (notSet key value rvalue operation).elim

/-- Every access of a call lets it go on or answers it. -/
theorem Sound.access_answers (sound : map.Sound traits chains past) (running : map.call thread = some call) :
    map.Goes (map.access traits thread call) thread call ∨
      Returns traits map (map.access traits thread call) past thread call := by
  unfold AtomicHashMap.access
  split
  · rename_i prev here
    exact sound.search_answers running here
  · rename_i target here
    exact sound.load_answers running here
  · rename_i target oldValPtr here
    exact sound.exchangeValue_answers running here
  · rename_i prev target here
    exact Or.inl (sound.storeNext_goes running here)
  · rename_i prev target here
    exact sound.exchangeNext_answers running here

/-- The calls that have returned, each answered in a state in which it was about to return. -/
structure Answered (traits : TableTraits Key) (start map : AtomicHashMap Thread Key Value)
    (past : List (MapEvent Thread Key Value)) : Prop where
  stays : ∀ ended ∈ map.completed, ∀ key value rvalue, ended.operation = .set key value rvalue →
    map.Present traits key
  before : ∀ thread call, map.call thread = some call → call.before ≤ map.completed.length
  answered : ∀ i ended, map.completed[i]? = some ended → ∃ first rest mid thread call, past = first ++ rest ∧
    run (step traits) start first = some mid ∧ mid.call thread = some call ∧ call.operation = ended.operation ∧
    call.before = ended.before ∧ mid.completed = map.completed.take i ∧ ended.before ≤ i ∧
    Answers traits mid.toMapMemory first ended.operation ended.result

theorem answered_init (traits : TableTraits Key) (key : Key) :
    Answered traits (init traits key) (init traits key : AtomicHashMap Thread Key Value) [] := by
  constructor
  · simp [init]
  · simp [init]
  · simp [init]

/-- What was answered stays so while calls go on. -/
theorem Answered.goes {start : AtomicHashMap Thread Key Value} (answered : Answered traits start map past)
    (goes : map.Goes next thread call) (running : map.call thread = some call) (event : MapEvent Thread Key Value)
    (keeps : ∀ key, map.Present traits key → next.Present traits key) :
    Answered traits start next (past ++ [event]) := by
  obtain ⟨now, calls, before, same⟩ := goes
  constructor
  · rw [same]
    exact fun ended member key value rvalue set => keeps key (answered.stays ended member key value rvalue set)
  · intro other found
    rw [calls, same]
    by_cases here : other = thread
    · rw [here, Function.update_self]
      rintro ⟨⟩
      rw [before]
      exact answered.before thread call running
    · rw [Function.update_of_ne here]
      exact answered.before other found
  · rw [same]
    intro i ended returned
    obtain ⟨first, rest, mid, caller, found, split, reached⟩ := answered.answered i ended returned
    exact ⟨first, rest ++ [event], mid, caller, found, by simp [split], reached⟩

theorem Answered.returns {start : AtomicHashMap Thread Key Value} (answered : Answered traits start map past)
    (ran : run (step traits) start past = some map) (running : map.call thread = some call)
    (returns : Returns traits map next past thread call) (event : MapEvent Thread Key Value)
    (keeps : ∀ key, map.Present traits key → next.Present traits key) :
    Answered traits start next (past ++ [event]) := by
  obtain ⟨result, calls, appended, answers, present⟩ := returns
  constructor
  · rw [appended]
    intro ended member key value rvalue set
    rcases List.mem_append.mp member with earlier | last
    · exact keeps key (answered.stays ended earlier key value rvalue set)
    · rw [List.mem_singleton.mp last] at set
      exact present key value rvalue set
  · intro other found
    rw [calls, appended, List.length_append]
    by_cases here : other = thread
    · rw [here, Function.update_self]
      rintro ⟨⟩
    · rw [Function.update_of_ne here]
      intro running'
      exact Nat.le_add_right_of_le (answered.before other found running')
  · rw [appended]
    intro i ended returned
    by_cases earlier : i < map.completed.length
    · rw [List.getElem?_append_left earlier] at returned
      rw [List.take_append_of_le_length (Nat.le_of_lt earlier)]
      obtain ⟨first, rest, mid, caller, found, split, reached⟩ := answered.answered i ended returned
      exact ⟨first, rest ++ [event], mid, caller, found, by simp [split], reached⟩
    · obtain ⟨below, same⟩ := List.getElem?_eq_some_iff.mp returned
      have last : i = map.completed.length := by
        rw [List.length_append, List.length_singleton] at below
        omega
      subst last
      rw [List.getElem_append_right Nat.le.refl] at same
      simp only [Nat.sub_self, List.getElem_cons_zero] at same
      subst same
      refine ⟨past, [event], map, thread, call, rfl, ran, running, rfl, rfl, ?_, ?_, answers⟩
      · rw [List.take_left]
      · exact answered.before thread call running

theorem answered_run (key : Key) {events : List (MapEvent Thread Key Value)}
    (ran : run (step traits) (init traits key) events = some map) :
    Answered traits (init traits key) map events := by
  have reached := run_invariant (fun (reached : AtomicHashMap Thread Key Value) past =>
    run (step traits) (init traits key) past = some reached ∧ Answered traits (init traits key) reached past)
    ?_ ⟨rfl, answered_init traits key⟩ ran
  · exact reached.2
  · intro reached past event next taken ⟨ran, answered⟩
    refine ⟨run_snoc ran taken, ?_⟩
    cases event with
    | call thread operation =>
      simp only [step] at taken
      split at taken
      · cases taken
      · rename_i idle
        cases taken
        constructor
        · exact answered.stays
        · intro other found
          show Function.update reached.call thread _ other = some found → found.before ≤ reached.completed.length
          by_cases here : other = thread
          · rw [here, Function.update_self]
            rintro ⟨⟩
            exact Nat.le.refl
          · rw [Function.update_of_ne here]
            exact answered.before other found
        · intro i ended returned
          obtain ⟨first, rest, mid, caller, found, split, reached⟩ := answered.answered i ended returned
          exact ⟨first, rest ++ [.call thread operation], mid, caller, found, by simp [split], reached⟩
    | access thread =>
      obtain ⟨call, running, rfl⟩ := Option.map_eq_some_iff.mp taken
      obtain ⟨chains, sound⟩ := sound_run key ran
      have keeps : ∀ key, reached.Present traits key → (reached.access traits thread call).Present traits key :=
        fun key present => sound.present_access running present
      rcases sound.access_answers running with goes | returns
      · exact answered.goes goes running _ keeps
      · exact answered.returns ran running returns _ keeps

omit [LinearOrder Key] [DecidableEq Thread] in
theorem Answers.found_iff {memory : MapMemory Key Value} {operation : Operation Key Value} {result : Result Value}
    (answers : Answers traits memory past operation result) (asks : operation = .has key ∨ operation = .get key) :
    result.found = true ↔ memory.Present traits key := by
  rcases asks with rfl | rfl
  · cases result with
    | has found => exact answers
    | get _ | set => exact answers.elim
  · cases result with
    | has _ | set => exact answers.elim
    | get value =>
      cases value with
      | none =>
        constructor
        · intro impossible
          cases impossible
        · exact fun present => absurd present answers
      | some value => exact ⟨fun _ => answers.1, fun _ => rfl⟩

/-- In every state of every run the lists of the buckets are strictly sorted; a `Has` or `Get` that began after a `Set` of
    its key had returned finds it; a `Get` returns what some `Set` was given for its key; and both answer whether the key
    was in the table in a state between their call and their return. -/
theorem lookups_in_order (traits : TableTraits Key) (zero : Key) {events : List (MapEvent Thread Key Value)}
    {map : AtomicHashMap Thread Key Value} (ran : run (step traits) (init traits zero) events = some map) :
    (∀ bucket, bucket < traits.tableSize → ∃ chain, Linked map.next (map.next bucket) chain ∧
      chain.Pairwise fun a b => (map.entry a).key < (map.entry b).key) ∧
    (∀ (i j : Nat) (stored asked : Completed Key Value) (key : Key) (value : Value) (rvalue : Bool),
      map.completed[i]? = some stored → map.completed[j]? = some asked → stored.operation = .set key value rvalue →
      asked.operation = .has key ∨ asked.operation = .get key → i < asked.before → asked.result.found = true) ∧
    (∀ ended ∈ map.completed, ∀ (key : Key) (value : Option Value), ended.operation = .get key →
      ended.result = .get (some value) → ∃ stored, value = some stored ∧ MapMemory.Stored events key stored) ∧
    (∀ (i : Nat) (asked : Completed Key Value) (key : Key), map.completed[i]? = some asked →
      asked.operation = .has key ∨ asked.operation = .get key →
      ∃ first rest mid thread call, events = first ++ rest ∧ run (step traits) (init traits zero) first = some mid ∧
        mid.call thread = some call ∧ call.operation = asked.operation ∧ call.before = asked.before ∧
        mid.completed = map.completed.take i ∧ asked.before ≤ i ∧
        (asked.result.found = true ↔ mid.Present traits key)) := by
  obtain ⟨chains, sound⟩ := sound_run zero ran
  have answered := answered_run zero ran
  refine ⟨?_, ?_, ?_, ?_⟩
  · intro bucket within
    exact ⟨chains bucket, (sound.shaped.linked bucket within).2, sound.shaped.sorted bucket within⟩
  · intro i j stored asked key value rvalue returned returned' set asks earlier
    obtain ⟨first, rest, mid, thread, call, -, ran', -, -, -, before, late, answers⟩ :=
      answered.answered j asked returned'
    apply (answers.found_iff asks).mpr
    have member : stored ∈ mid.completed := by
      rw [before]
      apply List.mem_of_getElem? 
      rw [List.getElem?_take_of_lt (Nat.lt_of_lt_of_le earlier late)]
      exact returned
    exact (answered_run zero ran').stays stored member key value rvalue set
  · intro ended member key value get found
    obtain ⟨i, returned⟩ := List.getElem?_of_mem member
    obtain ⟨first, rest, mid, thread, call, split, -, -, -, -, -, -, answers⟩ := answered.answered i ended returned
    rw [get, found] at answers
    obtain ⟨stored, same, given⟩ := answers.2
    refine ⟨stored, same, given.mono ?_⟩
    rw [split]
    exact List.subset_append_left first rest
  · intro i asked key returned asks
    obtain ⟨first, rest, mid, thread, call, split, ran', running, operation, began, before, late, answers⟩ :=
      answered.answered i asked returned
    exact ⟨first, rest, mid, thread, call, split, ran', running, operation, began, before, late, answers.found_iff asks⟩

def byRemainder : TableTraits Nat where
  toUInt64 := UInt64.ofNat

/-- Two keys of one bucket are set at once; the second exchange fails and goes over the list again. -/
def racingSets : List (MapEvent Nat Nat Nat) :=
  [.call 0 (.set 3 30 false), .call 1 (.set 131 40 true), .access 0, .access 1, .access 0, .access 1, .access 0, .access 1,
    .call 0 (.get 3), .access 1, .access 0, .access 1, .access 0, .access 1, .access 1, .call 0 (.has 131), .access 0,
    .access 0]

def answers : List (Completed Nat Nat) :=
  [⟨.set 3 30 false, .set, 0⟩, ⟨.get 3, .get (some (some 30)), 1⟩, ⟨.set 131 40 true, .set, 0⟩,
    ⟨.has 131, .has true, 3⟩]

theorem racingSets_in_order :
    ∃ map, run (step byRemainder) (init byRemainder 0) racingSets = some map ∧ map.completed = answers ∧
      (∃ chain, Linked map.next (map.next 3) chain ∧
        chain.Pairwise fun a b => (map.entry a).key < (map.entry b).key) ∧
      (∃ first rest mid, racingSets = first ++ rest ∧
        run (step byRemainder) (init byRemainder 0) first = some mid ∧ mid.completed = answers.take 3 ∧
        mid.Present byRemainder 131) := by
  have reached : (run (step byRemainder) (init byRemainder 0) racingSets).any (fun map =>
      decide (map.completed = answers)) = true := by decide +kernel
  obtain ⟨map, ran, same⟩ := (Option.any_eq_true _ _).mp reached
  have returned := of_decide_eq_true same
  obtain ⟨sorted, -, -, between⟩ := lookups_in_order byRemainder 0 ran
  rw [returned] at between
  obtain ⟨first, rest, mid, thread, call, split, ran', -, -, -, before, -, found⟩ :=
    between 3 ⟨.has 131, .has true, 3⟩ 131 rfl (Or.inl rfl)
  exact ⟨map, ran, returned, sorted 3 (by decide), first, rest, mid, split, ran', before, found.mp rfl⟩

end AtomicHashMap

end CyberRT.Base
