import CyberRT.Base.MapCalls

namespace CyberRT.Base

open Execution Lists MapMemory

namespace AtomicHashMap

variable {Thread Key Value : Type} [LinearOrder Key] [DecidableEq Thread] {traits : TableTraits Key}
  {map next : AtomicHashMap Thread Key Value} {chains : Nat → List Nat} {past : List (MapEvent Thread Key Value)}
  {thread : Thread} {call : Call Key Value}

theorem Sound.toSearch (sound : map.Sound traits chains past) (running : map.call thread = some call) {prev : Nat}
    (precedes : map.Precedes traits chains call.operation.key prev) :
    (map.moveTo thread call (.search prev)).Sound traits chains past := by
  have fits : map.PointFits traits chains call.operation.key (.search prev) := precedes
  apply sound.moveTo running fits
  · rintro _ _ (impossible | impossible) <;> cases impossible
  · rintro _ _ ⟨⟩
  · rintro _ ⟨⟩
  · rintro _ _ ⟨⟩

/-- A retry starts at the head of the bucket. -/
theorem Sound.retry (sound : map.Sound traits chains past) (running : map.call thread = some call) :
    (map.moveTo thread call (.search (traits.index call.operation.key))).Sound traits chains past :=
  sound.toSearch running (Or.inl rfl)

theorem Sound.hasStep (sound : map.Sound traits chains past) (running : map.call thread = some call) {prev : Nat}
    (precedes : map.Precedes traits chains call.operation.key prev) :
    (map.hasStep thread call call.operation.key (map.next prev)).Sound traits chains past := by
  cases loaded : map.next prev with
  | none => exact sound.return_ thread call _
  | some target =>
    simp only [AtomicHashMap.hasStep]
    split
    · rename_i less
      exact sound.toSearch running (Or.inr ⟨sound.shaped.mem_of_next precedes loaded, less⟩)
    · exact sound.return_ thread call _

theorem Sound.findStep (sound : map.Sound traits chains past) (running : map.call thread = some call) {prev : Nat}
    (precedes : map.Precedes traits chains call.operation.key prev) (asks : ∀ key, call.operation ≠ .has key)
    (notFound : Nat → Option Nat → AtomicHashMap Thread Key Value)
    (otherwise : ¬map.Present traits call.operation.key →
      (∀ address, map.next prev = some address →
        address ∈ chains (traits.index call.operation.key) ∧ call.operation.key < (map.entry address).key) →
      (notFound prev (map.next prev)).Sound traits chains past) :
    (map.findStep thread call call.operation.key prev notFound (map.next prev)).Sound traits chains past := by
  cases loaded : map.next prev with
  | none =>
    rw [loaded] at otherwise
    exact otherwise (sound.shaped.absent_of_none precedes loaded) (by simp)
  | some target =>
    have member := sound.shaped.mem_of_next precedes loaded
    simp only [AtomicHashMap.findStep]
    split
    · rename_i same
      have found : map.PointFits traits chains call.operation.key (.loadValue target) := ⟨member, same⟩
      apply sound.moveTo running found
      · rintro _ _ (impossible | impossible) <;> cases impossible
      · rintro _ _ ⟨⟩
      · exact fun _ _ => asks
      · rintro _ _ ⟨⟩
    · rename_i differs
      split
      · rename_i larger
        rw [loaded] at otherwise
        apply otherwise (sound.shaped.absent_of_larger precedes loaded larger)
        rintro address ⟨⟩
        exact ⟨member, larger⟩
      · rename_i notLarger
        have less := lt_of_le_of_ne (not_lt.mp notLarger) differs
        exact sound.toSearch running (Or.inr ⟨member, less⟩)

theorem Sound.searchStep (sound : map.Sound traits chains past) (running : map.call thread = some call) {prev : Nat}
    (here : call.point = .search prev) : (map.searchStep thread call prev).Sound traits chains past := by
  have fits := sound.fits thread call running
  have precedes : map.Precedes traits chains call.operation.key prev := by
    have point := fits.point
    rwa [here] at point
  unfold AtomicHashMap.searchStep
  cases operation : call.operation with
  | has key =>
    have step := sound.hasStep running precedes
    rwa [operation] at step
  | get key =>
    have step := sound.findStep running precedes (by simp [operation])
      (fun _ _ => map.return_ thread call (.get none)) fun _ _ => sound.return_ thread call _
    rwa [operation] at step
  | set key value rvalue =>
    have step := sound.findStep running precedes (by simp [operation])
      (fun prev target => map.moveTo thread call (.storeNext prev target)) ?_
    · rwa [operation] at step
    · intro absent larger
      have fits' : map.PointFits traits chains call.operation.key (.storeNext prev (map.next prev)) :=
        ⟨precedes, larger⟩
      apply sound.moveTo running fits'
      · intro _ _ _
        refine ⟨⟨key, value, rvalue, operation⟩, ?_⟩
        by_contra made
        exact absent ((sound.shaped.present_iff _).mpr (fits.newValue made).2)
      · rintro _ _ ⟨⟩
      · rintro _ ⟨⟩
      · rintro _ _ ⟨⟩

omit [LinearOrder Key] [DecidableEq Thread] in
/-- A new value changes no entry. -/
theorem grows_newValue (traits : TableTraits Key) (map : AtomicHashMap Thread Key Value) (chains : Nat → List Nat)
    (value : Option Value) : map.Grows traits chains (map.newValue value) chains := by
  refine ⟨Nat.le.refl, fun _ _ => rfl, fun _ _ _ member => member, ?_⟩
  intro address held found
  have below := (List.getElem?_eq_some_iff.mp found).1
  exact (List.getElem?_append_left below).trans found

theorem Shaped.newValue {memory : MapMemory Key Value} (shaped : memory.Shaped traits chains) (value : Option Value) :
    (memory.newValue value).Shaped traits chains :=
  shaped.congr (fun _ _ _ _ => rfl) (fun _ _ _ _ => rfl) Nat.le.refl

/-- `Insert` has made its value for a key that it has found. -/
theorem Sound.makeValue (sound : map.Sound traits chains past) (running : map.call thread = some call) {target : Nat}
    {key : Key} {value : Value} {rvalue : Bool} (found : map.PointFits traits chains key (.loadValue target))
    (operation : call.operation = .set key value rvalue) (made : call.newValue = none) (oldValPtr : Option Nat) :
    ((map.setMemory (map.newValue (argument call value rvalue))).moveTo thread
      { call with newValue := some map.values.length } (.exchangeValue target oldValPtr)).Sound traits chains past := by
  have fits := sound.fits thread call running
  have named : call.operation.key = key := by rw [operation]; rfl
  have grows := grows_newValue traits map chains (argument call value rvalue)
  have copied : argument call value rvalue = some value := by simp [argument, made]
  have stored : MapMemory.Stored past key value := by
    obtain ⟨caller, member⟩ := fits.called
    rw [operation] at member
    exact ⟨caller, rvalue, member⟩
  apply sound.advance (List.Subset.refl past) (Shaped.newValue sound.shaped _) grows
  · exact fun bucket within address member =>
      (sound.carried bucket within address member).grow grows (List.Subset.refl past)
  · exact fun other found new _ running made => sound.untouched running made
  · rintro found' ⟨⟩
    constructor
    · exact fits.called
    · show _ ∈ chains (traits.index call.operation.key) ∧ _ = call.operation.key
      rw [named]
      exact found
    · intro new own
      have entry := fits.newEntry new own
      exact ⟨entry.fresh, entry.apart, entry.named, entry.carries.grow grows (List.Subset.refl past)⟩
    · intro _
      show (map.newValue _).Carries past call.operation.key _ ∧
        ∃ address ∈ chains (traits.index call.operation.key), (map.entry address).key = call.operation.key
      rw [named]
      refine ⟨⟨map.values.length, value, rfl, ?_, stored⟩, target, found.1, found.2⟩
      simp [MapMemory.newValue, copied]
    · rintro _ _ (impossible | impossible) <;> cases impossible
    · rintro _ _ ⟨⟩
    · rintro _ ⟨⟩
    · intro _ _ _
      exact ⟨⟨key, value, rvalue, operation⟩, by simp⟩
  · rintro found' other call' new ⟨⟩ differs running' made'
    exact sound.own running differs running' made'

theorem Sound.loadValueStep (sound : map.Sound traits chains past) (running : map.call thread = some call) {target : Nat}
    (here : call.point = .loadValue target) : (map.loadValueStep thread call target).Sound traits chains past := by
  have fits := sound.fits thread call running
  have found : map.PointFits traits chains call.operation.key (.loadValue target) := by
    rw [← here]
    exact fits.point
  unfold AtomicHashMap.loadValueStep
  split
  · rename_i key value rvalue operation
    split
    · rename_i address made
      have found' : map.PointFits traits chains call.operation.key
          (.exchangeValue target (map.entry target).valuePtr) := found
      apply sound.moveTo running found'
      · rintro _ _ (impossible | impossible) <;> cases impossible
      · rintro _ _ ⟨⟩
      · rintro _ ⟨⟩
      · intro _ _ _
        exact ⟨⟨key, value, rvalue, operation⟩, by simp [made]⟩
    · rename_i made
      rw [operation] at found
      exact sound.makeValue running found operation made _
  · exact sound.return_ thread call _

theorem Sound.exchangeValueStep (sound : map.Sound traits chains past) (running : map.call thread = some call)
    {target : Nat} {oldValPtr : Option Nat} (here : call.point = .exchangeValue target oldValPtr) :
    (map.exchangeValueStep traits thread call target oldValPtr).Sound traits chains past := by
  have fits := sound.fits thread call running
  have found : map.PointFits traits chains call.operation.key (.exchangeValue target oldValPtr) := by
    rw [← here]
    exact fits.point
  have carries := (fits.newValue (fits.exchanging target oldValPtr here).2).1
  unfold AtomicHashMap.exchangeValueStep
  split
  · have keys : ∀ address, ((map.setEntry target { map.entry target with valuePtr := call.newValue }).entry address).key =
        (map.entry address).key :=
      fun address => keys_setEntry map.toMapMemory target address rfl
    have links : ∀ address, (map.setEntry target { map.entry target with valuePtr := call.newValue }).next address =
        map.next address := by
      intro address
      unfold MapMemory.next
      rw [entry_setEntry]
      split <;> simp [*]
    have grows : map.Grows traits chains (map.setEntry target { map.entry target with valuePtr := call.newValue }) chains :=
      ⟨Nat.le.refl, fun address _ => keys address, fun _ _ _ member => member, fun _ _ held => held⟩
    apply sound.advance (List.Subset.refl past) _ grows
    · intro bucket within address member
      rw [keys, entry_setEntry]
      split
      · rename_i same
        rw [same, found.2]
        exact carries
      · exact sound.carried bucket within address member
    · intro other found' new _ running' made
      refine ⟨?_, (sound.untouched running' made).2⟩
      rw [entry_setEntry, if_neg]
      rintro rfl
      exact (sound.untouched running' made).2 _ (traits.index_lt _) found.1
    · rintro _ ⟨⟩
    · rintro _ _ _ _ ⟨⟩
    · exact sound.shaped.congr (fun _ _ address _ => links address) (fun _ _ address _ => keys address) Nat.le.refl
  · exact sound.retry running

/-- A change of an entry that no bucket has yet. -/
theorem Shaped.setPrivate {memory : MapMemory Key Value} (shaped : memory.Shaped traits chains) {new : Nat}
    (outside : traits.tableSize ≤ new) (apart : ∀ bucket, bucket < traits.tableSize → new ∉ chains bucket)
    (entry : Entry Key) : (memory.setEntry new entry).Shaped traits chains := by
  have differs : ∀ bucket, bucket < traits.tableSize → ∀ address ∈ bucket :: chains bucket, address ≠ new := by
    intro bucket within address member same
    rcases List.mem_cons.mp member with head | member
    · omega
    · exact apart bucket within (same ▸ member)
  apply shaped.congr
  · intro bucket within address member
    show ((memory.setEntry new entry).entry address).next = _
    rw [entry_setEntry, if_neg (differs bucket within address member)]
    rfl
  · intro bucket within address member
    rw [entry_setEntry, if_neg (differs bucket within address (List.mem_cons_of_mem _ member))]
  · exact Nat.le.refl

/-- A later round of `Insert` stores the link in the entry that an earlier one has made. -/
theorem Sound.relink (sound : map.Sound traits chains past) (running : map.call thread = some call) {prev new : Nat}
    {target : Option Nat} (here : call.point = .storeNext prev target) (made : call.newEntry = some new) :
    ((map.setMemory (map.setEntry new { map.entry new with next := target })).moveTo thread call
      (.exchangeNext prev target)).Sound traits chains past := by
  have fits := sound.fits thread call running
  have entry := fits.newEntry new made
  have found : map.PointFits traits chains call.operation.key (.storeNext prev target) := by
    rw [← here]
    exact fits.point
  have keys : ∀ address, ((map.setEntry new { map.entry new with next := target }).entry address).key =
      (map.entry address).key :=
    fun address => keys_setEntry map.toMapMemory new address rfl
  have values : ∀ address, ((map.setEntry new { map.entry new with next := target }).entry address).valuePtr =
      (map.entry address).valuePtr :=
    fun address => values_setEntry map.toMapMemory new address rfl
  have grows : map.Grows traits chains (map.setEntry new { map.entry new with next := target }) chains :=
    ⟨Nat.le.refl, fun address _ => keys address, fun _ _ _ member => member, fun _ _ held => held⟩
  have shaped := Shaped.setPrivate sound.shaped entry.fresh.1 entry.apart { map.entry new with next := target }
  apply sound.advance (List.Subset.refl past) shaped grows
  · intro bucket within address member
    rw [keys, values]
    exact sound.carried bucket within address member
  · intro other found' new' differs running' made'
    refine ⟨?_, (sound.untouched running' made').2⟩
    rw [entry_setEntry, if_neg]
    intro same
    exact differs (sound.apart other thread found' call new running' running (same ▸ made') made)
  · intro found' same
    cases same
    constructor
    · exact fits.called
    · exact MapMemory.PointFits.grow found sound.shaped grows
    · intro new' made'
      have own := fits.newEntry new' made'
      constructor
      · exact own.fresh
      · exact own.apart
      · rw [keys]
        exact own.named
      · rw [values]
        exact own.carries
    · intro value
      exact absurd (fits.storing prev target (Or.inl here)).2 value
    · exact fun _ _ _ => fits.storing prev target (Or.inl here)
    · intro prev' target' same
      cases same
      refine ⟨new, made, ?_⟩
      show ((map.setEntry new _).entry new).next = target
      rw [entry_setEntry, if_pos rfl]
    · intro _ impossible
      cases impossible
    · intro _ _ impossible
      cases impossible
  · intro found' other call' new' same differs running' made'
    cases same
    exact sound.own running differs running' made'

/-- The first round of `Insert` that does not find the key makes the entry. -/
theorem Sound.makeEntry (sound : map.Sound traits chains past) (running : map.call thread = some call) {prev : Nat}
    {target : Option Nat} (here : call.point = .storeNext prev target) {key : Key} {value : Value} {rvalue : Bool}
    (operation : call.operation = .set key value rvalue) :
    ((map.setMemory ((map.newValue (argument call value rvalue)).newEntry
      { key := key, valuePtr := some map.values.length, next := target })).moveTo thread
      { call with newEntry := some map.allocated } (.exchangeNext prev target)).Sound traits chains past := by
  have fits := sound.fits thread call running
  have named : call.operation.key = key := by
    rw [operation]
    rfl
  have storing := fits.storing prev target (Or.inl here)
  have copied : argument call value rvalue = some value := by simp [argument, storing.2]
  have found : map.PointFits traits chains call.operation.key (.storeNext prev target) := by
    rw [← here]
    exact fits.point
  have stored : MapMemory.Stored past key value := by
    obtain ⟨caller, member⟩ := fits.called
    rw [operation] at member
    exact ⟨caller, rvalue, member⟩
  have fresh : ∀ bucket, bucket < traits.tableSize → map.allocated ∉ chains bucket := by
    intro bucket within member
    exact absurd (sound.shaped.inside bucket within _ member).2.1 (Nat.lt_irrefl _)
  have valued := grows_newValue traits map chains (argument call value rvalue)
  have older : ∀ address, address < map.allocated → ((map.newValue (argument call value rvalue)).newEntry
      { key := key, valuePtr := some map.values.length, next := target }).entry address = map.entry address := by
    intro address below
    refine (entry_setEntry _ _ _ _).trans (if_neg ?_)
    exact Nat.ne_of_lt below
  have newest : ((map.newValue (argument call value rvalue)).newEntry
      { key := key, valuePtr := some map.values.length, next := target }).entry map.allocated =
      { key := key, valuePtr := some map.values.length, next := target } :=
    (entry_setEntry _ _ _ _).trans (if_pos rfl)
  have grows : map.Grows traits chains ((map.newValue (argument call value rvalue)).newEntry
      { key := key, valuePtr := some map.values.length, next := target }) chains := by
    refine ⟨Nat.le_succ _, ?_, fun _ _ _ member => member, valued.values⟩
    intro address below
    rw [older address below]
  have shaped := Shaped.setPrivate (Shaped.newValue sound.shaped (argument call value rvalue)) sound.shaped.heads fresh
    { key := key, valuePtr := some map.values.length, next := target }
  apply sound.advance (List.Subset.refl past) _ grows
  · intro bucket within address member
    rw [older address (sound.shaped.inside bucket within address member).2.1]
    exact (sound.carried bucket within address member).grow grows (List.Subset.refl past)
  · intro other found' new' _ running' made'
    have entry := (sound.fits other found' running').newEntry new' made'
    exact ⟨older new' entry.fresh.2, entry.apart⟩
  · intro found' same
    cases same
    constructor
    · exact fits.called
    · exact MapMemory.PointFits.grow found sound.shaped grows
    · intro new made
      obtain rfl := Option.some.inj made
      constructor
      · exact ⟨sound.shaped.heads, Nat.lt_succ_self _⟩
      · exact fresh
      · rw [newest]
        exact named.symm
      · rw [newest]
        show MapMemory.Carries _ past call.operation.key _
        rw [named]
        refine ⟨map.values.length, value, rfl, ?_, stored⟩
        show (map.values ++ [argument call value rvalue])[map.values.length]? = _
        simp [copied]
    · intro made
      exact absurd storing.2 made
    · exact fun _ _ _ => storing
    · intro prev' target' same
      cases same
      refine ⟨map.allocated, rfl, ?_⟩
      show (MapMemory.entry _ map.allocated).next = target
      rw [newest]
    · intro _ impossible
      cases impossible
    · intro _ _ impossible
      cases impossible
  · intro found' other call' new same _ running' made made'
    cases same
    obtain rfl := Option.some.inj made
    exact absurd ((sound.fits other call' running').newEntry _ made').fresh.2 (Nat.lt_irrefl _)
  · exact shaped.congr (fun _ _ _ _ => rfl) (fun _ _ _ _ => rfl) (Nat.le_succ _)

theorem Sound.storeNextStep (sound : map.Sound traits chains past) (running : map.call thread = some call) {prev : Nat}
    {target : Option Nat} (here : call.point = .storeNext prev target) :
    (map.storeNextStep thread call prev target).Sound traits chains past := by
  unfold AtomicHashMap.storeNextStep
  split
  · rename_i made
    exact sound.relink running here made
  · rename_i operation _
    exact sound.makeEntry running here operation
  · exact sound

/-- The exchange that succeeds puts the entry of the call into its bucket. -/
theorem Sound.exchangeNextStep (sound : map.Sound traits chains past) (running : map.call thread = some call)
    {prev : Nat} {target : Option Nat} (here : call.point = .exchangeNext prev target) :
    ∃ chains', (map.exchangeNextStep traits thread call prev target).Sound traits chains' past ∧
      ∀ bucket, chains bucket ⊆ chains' bucket := by
  have fits := sound.fits thread call running
  have found : map.PointFits traits chains call.operation.key (.exchangeNext prev target) := by
    rw [← here]
    exact fits.point
  obtain ⟨new, made, leads⟩ := fits.linking prev target here
  have entry := fits.newEntry new made
  unfold AtomicHashMap.exchangeNextStep
  split
  · rename_i current
    rw [← current] at found leads
    obtain ⟨chain, shaped, members⟩ := sound.shaped.insert found.1 entry.fresh entry.apart entry.named leads
      fun address leads => (found.2 address leads).2
    rw [← made] at shaped
    have keys : ∀ address, ((map.setEntry prev { map.entry prev with next := call.newEntry }).entry address).key =
        (map.entry address).key :=
      fun address => keys_setEntry map.toMapMemory prev address rfl
    have values : ∀ address,
        ((map.setEntry prev { map.entry prev with next := call.newEntry }).entry address).valuePtr =
          (map.entry address).valuePtr :=
      fun address => values_setEntry map.toMapMemory prev address rfl
    have mem_chains : ∀ bucket address,
        address ∈ Function.update chains (traits.index call.operation.key) chain bucket →
          bucket = traits.index call.operation.key ∧ address = new ∨ address ∈ chains bucket := by
      intro bucket address member
      by_cases same : bucket = traits.index call.operation.key
      · rw [same, Function.update_self] at member
        rcases (members address).mp member with first | older
        · exact Or.inl ⟨same, first⟩
        · exact Or.inr (same ▸ older)
      · rw [Function.update_of_ne same] at member
        exact Or.inr member
    have more : ∀ bucket, chains bucket ⊆ Function.update chains (traits.index call.operation.key) chain bucket := by
      intro bucket address member
      by_cases same : bucket = traits.index call.operation.key
      · rw [same, Function.update_self]
        exact (members address).mpr (Or.inr (same ▸ member))
      · rw [Function.update_of_ne same]
        exact member
    refine ⟨Function.update chains (traits.index call.operation.key) chain, ?_, more⟩
    apply sound.advance (List.Subset.refl past) shaped
    · exact ⟨Nat.le.refl, fun address _ => keys address, fun bucket _ address member => more bucket member,
        fun _ _ held => held⟩
    · intro bucket within address member
      rw [keys, values]
      rcases mem_chains bucket address member with ⟨-, rfl⟩ | older
      · rw [entry.named]
        exact entry.carries
      · exact sound.carried bucket within address older
    · intro other found' new' differs running' made'
      have other_entry := (sound.fits other found' running').newEntry new' made'
      have here' := traits.index_lt call.operation.key
      constructor
      · rw [entry_setEntry, if_neg]
        intro same
        rcases found.1 with head | among
        · have outside := other_entry.fresh.1
          omega
        · exact other_entry.apart _ here' (same ▸ among.1)
      · intro bucket within member
        rcases mem_chains bucket new' member with ⟨-, rfl⟩ | older
        · exact differs (sound.apart other thread found' call _ running' running made' made)
        · exact other_entry.apart bucket within older
    · intro _ impossible
      cases impossible
    · intro _ _ _ _ impossible
      cases impossible
  · exact ⟨chains, sound.retry running, fun _ => List.Subset.refl _⟩

theorem Sound.access (sound : map.Sound traits chains past) (running : map.call thread = some call) :
    ∃ chains', (map.access traits thread call).Sound traits chains' past ∧ ∀ bucket, chains bucket ⊆ chains' bucket := by
  have same : ∀ bucket, chains bucket ⊆ chains bucket := fun _ => List.Subset.refl _
  unfold AtomicHashMap.access
  split
  · rename_i prev here
    exact ⟨chains, sound.searchStep running here, same⟩
  · rename_i target here
    exact ⟨chains, sound.loadValueStep running here, same⟩
  · rename_i target oldValPtr here
    exact ⟨chains, sound.exchangeValueStep running here, same⟩
  · rename_i prev target here
    exact ⟨chains, sound.storeNextStep running here, same⟩
  · rename_i prev target here
    exact sound.exchangeNextStep running here

theorem sound_step {event : MapEvent Thread Key Value} (sound : map.Sound traits chains past)
    (taken : map.step traits event = some next) : ∃ chains', next.Sound traits chains' (past ++ [event]) := by
  have earlier : past ⊆ past ++ [event] := List.subset_append_left past [event]
  cases event with
  | call thread operation =>
    simp only [step] at taken
    split at taken
    · cases taken
    · cases taken
      refine ⟨chains, sound.setCall earlier ?_ ?_⟩
      · constructor
        · exact ⟨thread, by simp⟩
        · exact Or.inl rfl
        · intro new impossible
          cases impossible
        · intro made
          exact absurd rfl made
        · rintro _ _ (impossible | impossible) <;> cases impossible
        · intro _ _ impossible
          cases impossible
        · intro _ impossible
          cases impossible
        · intro _ _ impossible
          cases impossible
      · intro other call' new _ _ impossible
        cases impossible
  | access thread =>
    obtain ⟨call, running, rfl⟩ := Option.map_eq_some_iff.mp taken
    obtain ⟨chains', kept, _⟩ := sound.access running
    exact ⟨chains', kept.mono earlier⟩

theorem sound_run (key : Key) {events : List (MapEvent Thread Key Value)}
    (ran : run (step traits) (init traits key) events = some map) : ∃ chains, map.Sound traits chains events := by
  apply run_invariant (fun (reached : AtomicHashMap Thread Key Value) past => ∃ chains, reached.Sound traits chains past)
    _ ⟨_, sound_init traits key⟩ ran
  intro reached past event next taken sound
  obtain ⟨chains, sound⟩ := sound
  exact sound_step sound taken

end AtomicHashMap

end CyberRT.Base
