import Mathlib.Algebra.Order.BigOperators.Group.List
import Mathlib.Algebra.Order.Group.Nat
import Mathlib.Algebra.Order.Ring.Int
import Mathlib.Data.List.TakeWhile

namespace CyberRT.PinThread

/-- How `ParseCpuset` ends without a result: `std::stoi` throws, `exit(0)` is called, or the loop of a range still runs when
    its fuel is used up. -/
inductive Stop where
  | invalidArgument
  | outOfRange
  | exit
  | running
  deriving DecidableEq, Repr

def intMax : Int := 2 ^ 31 - 1

/-- The line that `getline` extracts and what it leaves in the stream; `none` at the end of the stream. -/
def getline (delim : Char) : List Char → Option (List Char × List Char)
  | [] => none
  | stream => some (stream.takeWhile (· ≠ delim), (stream.dropWhile (· ≠ delim)).tail)

theorem getline_shrinks {delim : Char} {stream line rest : List Char}
    (read : getline delim stream = some (line, rest)) : rest.length < stream.length := by
  cases stream with
  | nil => cases read
  | cons c stream =>
    obtain ⟨_, rfl⟩ := Prod.mk.inj (Option.some.inj read)
    have suffix := (List.dropWhile_suffix (l := c :: stream) (· ≠ delim)).length_le
    rw [List.length_tail, List.length_cons]
    rw [List.length_cons] at suffix
    omega

/-- `while (getline(ss, l, delim))` with a push of each line. -/
def getlines (delim : Char) (stream : List Char) : List (List Char) :=
  match _read : getline delim stream with
  | none => []
  | some (line, rest) => line :: getlines delim rest
termination_by stream.length
decreasing_by exact getline_shrinks _read

def isspace (c : Char) : Bool := c = ' ' || (9 ≤ c.toNat && c.toNat ≤ 13)

/-- Whether the number behind an optional sign is negative. -/
def sign : List Char → Bool × List Char
  | '-' :: text => (true, text)
  | '+' :: text => (false, text)
  | text => (false, text)

/-- `std::stoi` with base 10, which reads up to the first character that is no digit. -/
def stoi (str : List Char) : Except Stop Int :=
  let (negative, text) := sign (str.dropWhile isspace)
  let digits := text.takeWhile Char.isDigit
  if digits = [] then .error .invalidArgument
  else
    let magnitude : Int := Nat.ofDigitChars 10 digits 0
    let value := if negative then -magnitude else magnitude
    if value < -intMax - 1 ∨ intMax < value then .error .outOfRange else .ok value

/-- `i++` on an `int`, which wraps around. -/
def increment (i : Int) : Int := if i = intMax then -intMax - 1 else i + 1

/-- `for (int i = ..., e = ...; i <= e; i++)`. -/
def pushRange : Nat → Int → Int → List Int → Except Stop (List Int)
  | 0, i, e, cpuset => if i ≤ e then .error .running else .ok cpuset
  | fuel + 1, i, e, cpuset => if i ≤ e then pushRange fuel (increment i) e (cpuset ++ [i]) else .ok cpuset

def parseLine (fuel : Nat) (cpuset : List Int) (line : List Char) : Except Stop (List Int) :=
  match getlines '-' line with
  | [value] => (stoi value).map fun value => cpuset ++ [value]
  | [first, last] => (stoi first).bind fun i => (stoi last).bind fun e => pushRange fuel i e cpuset
  | _ => .error .exit

def parseCpuset (fuel : Nat) (str : String) (cpuset : List Int) : Except Stop (List Int) :=
  (getlines ',' str.toList).foldlM (parseLine fuel) cpuset

/-- What a cpuset is written for: processors one by one or from one to another. -/
inductive Item where
  | value (n : Nat) (bound : n ≤ intMax)
  | range (first last : Nat) (ordered : first ≤ last) (bound : last < intMax)

namespace Item

def text : Item → String
  | value n _ => n.repr
  | range first last _ _ => first.repr ++ "-" ++ last.repr

def values : Item → List Int
  | value n _ => [(n : Int)]
  | range first last _ _ => (List.range' first (last + 1 - first)).map Int.ofNat

end Item

def text (items : List Item) : String := ",".intercalate (items.map Item.text)

theorem getlines_nil (delim : Char) : getlines delim [] = [] := by
  rw [getlines]
  rfl

theorem getlines_cons {delim c : Char} {stream : List Char} : getlines delim (c :: stream) =
    (c :: stream).takeWhile (· ≠ delim) :: getlines delim ((c :: stream).dropWhile (· ≠ delim)).tail := by
  rw [getlines]
  rfl

theorem getlines_single {delim : Char} {line : List Char} (nonempty : line ≠ []) (plain : delim ∉ line) :
    getlines delim line = [line] := by
  have all : ∀ c ∈ line, decide (c ≠ delim) = true := by
    intro c member
    exact decide_eq_true fun same => plain (same ▸ member)
  cases line with
  | nil => exact absurd rfl nonempty
  | cons c line =>
    rw [getlines_cons, List.takeWhile_eq_self_iff.mpr all, List.dropWhile_eq_nil_iff.mpr all]
    exact congrArg _ (getlines_nil delim)

theorem getlines_delimited {delim : Char} {line : List Char} (nonempty : line ≠ []) (plain : delim ∉ line)
    (rest : List Char) : getlines delim (line ++ delim :: rest) = line :: getlines delim rest := by
  have all : ∀ c ∈ line, decide (c ≠ delim) = true := by
    intro c member
    exact decide_eq_true fun same => plain (same ▸ member)
  have taken : (line ++ delim :: rest).takeWhile (· ≠ delim) = line := by
    rw [List.takeWhile_append_of_pos all]
    simp
  have dropped : (line ++ delim :: rest).dropWhile (· ≠ delim) = delim :: rest := by
    rw [List.dropWhile_append_of_pos all]
    simp
  cases line with
  | nil => exact absurd rfl nonempty
  | cons c line =>
    rw [List.cons_append] at taken dropped ⊢
    rw [getlines_cons, taken, dropped, List.tail_cons]

/-- Reading the lines of a joined text gives its parts back. -/
theorem getlines_intercalate {delim : Char} {parts : List (List Char)} (nonempty : ∀ part ∈ parts, part ≠ [])
    (plain : ∀ part ∈ parts, delim ∉ part) : getlines delim ([delim].intercalate parts) = parts := by
  induction parts with
  | nil => exact getlines_nil delim
  | cons part parts ih =>
    have first := nonempty part List.mem_cons_self
    have first' := plain part List.mem_cons_self
    have rest := ih (fun part member => nonempty part (List.mem_cons_of_mem _ member))
      (fun part member => plain part (List.mem_cons_of_mem _ member))
    cases parts with
    | nil =>
      rw [List.intercalate_singleton]
      exact getlines_single first first'
    | cons next parts =>
      rw [List.intercalate_cons_cons, List.append_assoc, List.singleton_append, getlines_delimited first first', rest]

theorem isDigit_of_mem_repr {n : Nat} {c : Char} (member : c ∈ n.repr.toList) : c.isDigit := by
  rw [Nat.toList_repr] at member
  exact Nat.isDigit_of_mem_toDigits (by decide) (by decide) member

theorem not_mem_repr {c : Char} (other : c.isDigit = false) (n : Nat) : c ∉ n.repr.toList := by
  intro member
  rw [isDigit_of_mem_repr member] at other
  cases other

theorem repr_nonempty (n : Nat) : n.repr.toList ≠ [] := by
  rw [Nat.toList_repr]
  exact Nat.toDigits_ne_nil

theorem not_isspace_of_isDigit {c : Char} (digit : c.isDigit) : isspace c = false := by
  have low : '0' ≤ c := by
    simp only [Char.isDigit, Bool.and_eq_true, decide_eq_true_eq] at digit
    exact digit.1
  have bound : 48 ≤ c.toNat := low
  have apart : c ≠ ' ' := by
    rintro rfl
    cases digit
  simp [isspace, apart]
  omega

theorem sign_of_isDigit {c : Char} (digit : c.isDigit) (rest : List Char) : sign (c :: rest) = (false, c :: rest) := by
  have minus : c ≠ '-' := by
    rintro rfl
    cases digit
  have plus : c ≠ '+' := by
    rintro rfl
    cases digit
  simp [sign, minus, plus]

theorem stoi_repr {n : Nat} (bound : n ≤ intMax) : stoi n.repr.toList = .ok (n : Int) := by
  have value : Nat.ofDigitChars 10 n.repr.toList 0 = n := by
    rw [Nat.toList_repr]
    exact Nat.ofDigitChars_ten_toDigits
  have positive : -intMax - 1 ≤ 0 := by decide
  have inside : ¬((n : Int) < -intMax - 1 ∨ intMax < n) := by omega
  have all : n.repr.toList.takeWhile Char.isDigit = n.repr.toList :=
    List.takeWhile_eq_self_iff.mpr fun c member => isDigit_of_mem_repr member
  have nonempty := repr_nonempty n
  have unsigned : sign (n.repr.toList.dropWhile isspace) = (false, n.repr.toList) := by
    cases text : n.repr.toList with
    | nil => exact absurd text nonempty
    | cons c rest =>
      have digit : c.isDigit := isDigit_of_mem_repr (by rw [text]; exact List.mem_cons_self)
      rw [List.dropWhile_cons_of_neg (by simp [not_isspace_of_isDigit digit])]
      exact sign_of_isDigit digit rest
  unfold stoi
  rw [unsigned]
  simp only [all, value, if_neg nonempty, Bool.false_eq_true, if_false, if_neg inside]

/-- The rounds of a range that does not end at the largest `int`. -/
theorem pushRange_eq {last : Nat} (bound : last < intMax) (more count : Nat) {first : Nat}
    (rounds : first + count = last + 1) (cpuset : List Int) :
    pushRange (count + more) first last cpuset = .ok (cpuset ++ (List.range' first count).map Int.ofNat) := by
  induction count generalizing first cpuset with
  | zero =>
    have done : ¬((first : Int) ≤ last) := by omega
    simp only [List.range'_zero, List.map_nil, List.append_nil]
    cases more <;> simp only [pushRange, if_neg done]
  | succ count ih =>
    have going : (first : Int) ≤ last := by omega
    have next : increment first = ((first + 1 : Nat) : Int) := by
      unfold increment
      rw [if_neg (by omega)]
      rfl
    rw [show count + 1 + more = count + more + 1 by omega, pushRange, if_pos going, next, ih (by omega),
      List.range'_succ, List.map_cons, List.append_assoc]
    rfl

/-- The rounds that the loop of an item takes. -/
def Item.rounds (item : Item) : Nat := item.values.length

theorem parseLine_text (item : Item) (more : Nat) (cpuset : List Int) :
    parseLine (item.rounds + more) cpuset item.text.toList = .ok (cpuset ++ item.values) := by
  unfold parseLine
  cases item with
  | value n bound =>
    rw [Item.text, getlines_single (repr_nonempty n) (not_mem_repr (by decide) n)]
    simp only [stoi_repr bound, Except.map, Item.values]
  | range first last ordered bound =>
    have lines : getlines '-' (Item.range first last ordered bound).text.toList =
        [first.repr.toList, last.repr.toList] := by
      rw [Item.text, String.toList_append, String.toList_append, List.append_assoc]
      exact (getlines_delimited (repr_nonempty first) (not_mem_repr (by decide) first) _).trans
        (congrArg _ (getlines_single (repr_nonempty last) (not_mem_repr (by decide) last)))
    have below : (first : Int) ≤ intMax := by omega
    have rounds : (Item.range first last ordered bound).rounds = last + 1 - first := by
      simp [Item.rounds, Item.values]
    rw [lines, rounds]
    simp only [stoi_repr below, stoi_repr (Int.le_of_lt bound), Except.bind]
    exact pushRange_eq bound more _ (by omega) cpuset

theorem parseLines_text (items : List Item) {fuel : Nat} (enough : ∀ item ∈ items, item.rounds ≤ fuel)
    (cpuset : List Int) : (items.map fun item => item.text.toList).foldlM (parseLine fuel) cpuset =
      .ok (cpuset ++ items.flatMap Item.values) := by
  induction items generalizing cpuset with
  | nil =>
    rw [List.flatMap_nil, List.append_nil]
    rfl
  | cons item items ih =>
    have first := parseLine_text item (fuel - item.rounds) cpuset
    rw [Nat.add_sub_cancel' (enough item List.mem_cons_self)] at first
    have rest := ih (fun item member => enough item (List.mem_cons_of_mem _ member)) (cpuset ++ item.values)
    rw [List.map_cons, List.foldlM_cons, first, List.flatMap_cons, ← List.append_assoc]
    exact rest

theorem not_mem_text {c : Char} (other : c.isDigit = false) (apart : c ≠ '-') (item : Item) : c ∉ item.text.toList := by
  cases item with
  | value n _ => exact not_mem_repr other n
  | range first last _ _ =>
    rw [Item.text, String.toList_append, String.toList_append, List.mem_append, List.mem_append]
    rintro ((member | member) | member)
    · exact not_mem_repr other first member
    · exact apart (List.mem_singleton.mp member)
    · exact not_mem_repr other last member

theorem text_nonempty (item : Item) : item.text.toList ≠ [] := by
  cases item with
  | value n _ => exact repr_nonempty n
  | range first last _ _ =>
    rw [Item.text, String.toList_append, String.toList_append]
    simp

/-- `ParseCpuset` returns on every written list of items, with their values in order behind what the vector has. -/
theorem parseCpuset_text (items : List Item) (cpuset : List Int) : ∃ rounds, ∀ more,
    parseCpuset (rounds + more) (text items) cpuset = .ok (cpuset ++ items.flatMap Item.values) := by
  refine ⟨(items.map Item.rounds).sum, fun more => ?_⟩
  have lines : getlines ',' (text items).toList = items.map fun item => item.text.toList := by
    rw [text, String.toList_intercalate, List.map_map]
    apply getlines_intercalate
    · intro part member
      obtain ⟨item, _, rfl⟩ := List.mem_map.mp member
      exact text_nonempty item
    · intro part member
      obtain ⟨item, _, rfl⟩ := List.mem_map.mp member
      exact not_mem_text (by decide) (by decide) item
  rw [parseCpuset, lines]
  apply parseLines_text
  intro item member
  have counted := List.single_le_sum (fun _ _ => Nat.zero_le _) _ (List.mem_map_of_mem (f := Item.rounds) member)
  omega

example : parseCpuset 4 "0-1,2-3" [] = .ok [0, 1, 2, 3] := by decide +kernel

end CyberRT.PinThread
