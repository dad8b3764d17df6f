import EzRets.Lib.LastWins
import EzRets.Odbc

/-!
# EzRets.Memory — what a call writes into the application's buffers

A driver call is modelled with the list of its stores, in order.  Addresses are natural numbers
and `0` is the null pointer; pointer arithmetic that leaves the address space is undefined in
C++ and not modelled.  Character buffers, `SQLLEN` cells and the typed targets are separate
objects, so a store of one kind is never read back as another.
-/

namespace EzRets

/-- `SQLPOINTER`. -/
abbrev Ptr := Nat

/-- A value as it is stored through a pointer of its C type. -/
inductive CValue
  | chars (s : Str)
  | len (n : Int)
  | ulen (n : Nat)
  | smallint (n : Int)
  | usmallint (n : Nat)
  | integer (n : Int)
  | uinteger (n : Nat)
  | bigint (n : Int)
  | pointer (p : Ptr)
  | byte (c : Int)
  | decimal (c : Char)
  | double (literal : Str)
  | dateYear (n : Int)
  | dateMonth (n : Int)
  | dateDay (n : Int)
  | timeHour (n : Int)
  | timeMinute (n : Int)
  | timeSecond (n : Int)
  | fraction (n : Int)
  | numericSign (n : Nat)
  | numericScale (n : Int)
  | numericPrecision (n : Nat)
  | numericVal (start : Nat) (bytes : List Nat)
  deriving DecidableEq, Repr

/-- One store. -/
structure Write where
  ptr : Ptr
  value : CValue
  deriving DecidableEq, Repr

/-- What the application keeps behind a pointer that the driver reads as a `uintptr_t`. -/
abbrev Deref := Ptr → Nat

/-- The character that a store leaves at `p`, if it writes there. -/
def Write.charAt (w : Write) (p : Ptr) : Option Char :=
  match w.value with
  | .chars s => if w.ptr ≤ p then s[p - w.ptr]? else none
  | _ => none

/-- The `SQLLEN` that a store leaves at `p`, if it writes there. -/
def Write.lenAt (w : Write) (p : Ptr) : Option Int :=
  match w.value with
  | .len n => if w.ptr = p then some n else none
  | _ => none

/-- The character at `p` after the stores, `none` where the buffer still has its old content. -/
def charAfter : List Write → Ptr → Option Char
  | [], _ => none
  | w :: ws, p => (charAfter ws p).or (w.charAt p)

/-- The `SQLLEN` at `p` after the stores, `none` where the cell still has its old content. -/
def lenAfter : List Write → Ptr → Option Int
  | [], _ => none
  | w :: ws, p => (lenAfter ws p).or (w.lenAt p)

/-- A store into a cell: the address and a value that is no text. -/
def Write.cell (w : Write) : Option (Ptr × CValue) :=
  match w.value with
  | .chars _ => none
  | v => some (w.ptr, v)

/-- The value of the cell at `p` after the stores, `none` where it still has its old content. -/
def cellAfter (ws : List Write) (p : Ptr) : Option CValue :=
  LastWins.assign (ws.filterMap Write.cell) p

/-- The `n` bytes at `p` and the `k` bytes at `q` have none in common. -/
def Apart (p n q k : Nat) : Prop := p + n ≤ q ∨ q + k ≤ p

/-- The first `n` characters at `p` after the stores. -/
def bufferAfter (ws : List Write) (p : Ptr) (n : Nat) : List (Option Char) :=
  (List.range n).map (fun i => charAfter ws (p + i))

@[simp] theorem charAfter_nil (p : Ptr) : charAfter [] p = none := rfl

@[simp] theorem charAfter_cons (w : Write) (ws : List Write) (p : Ptr) :
    charAfter (w :: ws) p = (charAfter ws p).or (w.charAt p) := rfl

@[simp] theorem lenAfter_nil (p : Ptr) : lenAfter [] p = none := rfl

@[simp] theorem lenAfter_cons (w : Write) (ws : List Write) (p : Ptr) :
    lenAfter (w :: ws) p = (lenAfter ws p).or (w.lenAt p) := rfl

theorem charAfter_append (ws ws' : List Write) (p : Ptr) :
    charAfter (ws ++ ws') p = (charAfter ws' p).or (charAfter ws p) := by
  induction ws with
  | nil => simp
  | cons w ws ih => simp [ih, Option.or_assoc]

theorem lenAfter_append (ws ws' : List Write) (p : Ptr) :
    lenAfter (ws ++ ws') p = (lenAfter ws' p).or (lenAfter ws p) := by
  induction ws with
  | nil => simp
  | cons w ws ih => simp [ih, Option.or_assoc]

/-! ## What the stores leave at an address -/

theorem charAfter_eq_none {ws : List Write} {p : Ptr} (h : ∀ w ∈ ws, w.charAt p = none) :
    charAfter ws p = none := by
  induction ws with
  | nil => rfl
  | cons w ws ih =>
    have hw : w.charAt p = none := h w (by simp)
    have hws : charAfter ws p = none := ih fun w' hw' => h w' (by simp [hw'])
    rw [charAfter_cons, hw, hws]
    rfl

/-- Stores that miss `p` do not count. -/
theorem charAfter_append_append {pre ws post : List Write} {p : Ptr}
    (h : ∀ w ∈ pre ++ post, w.charAt p = none) :
    charAfter (pre ++ ws ++ post) p = charAfter ws p := by
  have hpre : charAfter pre p = none :=
    charAfter_eq_none fun w hw => h w (List.mem_append_left post hw)
  have hpost : charAfter post p = none :=
    charAfter_eq_none fun w hw => h w (List.mem_append_right pre hw)
  rw [charAfter_append, charAfter_append, hpre, hpost]
  simp

/-- A text store covers its characters and nothing else. -/
theorem charAt_chars (a p : Nat) (s : Str) :
    (⟨a, .chars s⟩ : Write).charAt p = if a ≤ p then s[p - a]? else none := rfl

theorem charAt_chars_add (a i : Nat) (s : Str) :
    (⟨a, .chars s⟩ : Write).charAt (a + i) = s[i]? := by
  rw [charAt_chars, if_pos (Nat.le_add_right a i), Nat.add_sub_cancel_left]

theorem charAt_chars_eq_none {a p : Nat} {s : Str} (h : p < a ∨ a + s.length ≤ p) :
    (⟨a, .chars s⟩ : Write).charAt p = none := by
  rw [charAt_chars]
  split
  · rename_i hle
    exact List.getElem?_eq_none (by omega)
  · rfl

theorem bufferAfter_eq_map_some {ws : List Write} {a : Ptr} {s : Str}
    (h : ∀ i < s.length, charAfter ws (a + i) = s[i]?) :
    bufferAfter ws a s.length = s.map some := by
  refine List.ext_getElem (by simp [bufferAfter]) fun i h1 h2 => ?_
  have hi : i < s.length := by simpa using h2
  simp [bufferAfter, h i hi]

theorem charAfter_of_bufferAfter {ws : List Write} {a : Ptr} {s : Str} {n i : Nat}
    (h : bufferAfter ws a n = s.map some) (hi : i < s.length) :
    charAfter ws (a + i) = s[i]? := by
  have hlen : n = s.length := by simpa [bufferAfter] using congrArg List.length h
  have hget : (bufferAfter ws a n)[i]? = (s.map some)[i]? := by rw [h]
  have hn : i < n := by omega
  simpa [bufferAfter, hn, hi] using hget

theorem bufferAfter_congr {ws ws' : List Write} {p p' : Ptr} {n : Nat}
    (h : ∀ i < n, charAfter ws (p + i) = charAfter ws' (p' + i)) :
    bufferAfter ws p n = bufferAfter ws' p' n :=
  List.map_congr_left fun i hi => h i (List.mem_range.mp hi)

theorem cellAfter_append (ws ws' : List Write) (p : Ptr) :
    cellAfter (ws ++ ws') p = (cellAfter ws' p).or (cellAfter ws p) := by
  unfold cellAfter
  rw [List.filterMap_append, LastWins.assign_append]

theorem cellAfter_singleton {q p : Ptr} {v : CValue} (hv : ∀ s, v ≠ .chars s) :
    cellAfter [⟨q, v⟩] p = if q = p then some v else none := by
  have hcell : (⟨q, v⟩ : Write).cell = some (q, v) := by
    cases v with
    | chars s => exact absurd rfl (hv s)
    | _ => rfl
  unfold cellAfter
  rw [List.filterMap_cons_some hcell, List.filterMap_nil, LastWins.assign_singleton]

theorem cellAfter_concat_self (ws : List Write) {p : Ptr} {v : CValue} (hv : ∀ s, v ≠ .chars s) :
    cellAfter (ws ++ [⟨p, v⟩]) p = some v := by
  rw [cellAfter_append, cellAfter_singleton hv, if_pos rfl, Option.some_or]

/-- Stores of text and into other cells do not count. -/
theorem cellAfter_eq_none {ws : List Write} {p : Ptr}
    (h : ∀ w ∈ ws, w.cell = none ∨ w.ptr ≠ p) : cellAfter ws p = none := by
  refine LastWins.assign_eq_none_iff.mpr fun c hc => ?_
  obtain ⟨w, hw, hcell⟩ := List.mem_filterMap.mp hc
  rcases h w hw with hnone | hne
  · rw [hnone] at hcell
    cases hcell
  · have hptr : c.1 = w.ptr := by
      unfold Write.cell at hcell
      split at hcell
      · cases hcell
      · cases hcell
        rfl
    rw [hptr]
    exact hne

/-! ## `copyString` of utils.cpp -/

/-- Copies `src` into the buffer `dest` of `length` bytes and terminates it: the stores and the
number of characters delivered. -/
def copyString (src : Str) (dest : Ptr) (length : Nat) : List Write × Nat :=
  if dest = 0 ∨ length = 0 then ([], 0)
  else
    let size := min src.length length
    if size ≥ length then
      ([⟨dest, .chars (src.take length)⟩, ⟨dest + (length - 1), .chars ['\x00']⟩], length - 1)
    else
      ([⟨dest, .chars src⟩, ⟨dest + size, .chars ['\x00']⟩], size)

theorem copyString_of_fits {src : Str} {dest : Ptr} {length : Nat} (hd : dest ≠ 0)
    (h : src.length < length) :
    copyString src dest length =
      ([⟨dest, .chars src⟩, ⟨dest + src.length, .chars ['\x00']⟩], src.length) := by
  have hl : length ≠ 0 := by omega
  have hm : min src.length length = src.length := by omega
  simp [copyString, hd, hl, hm, Nat.not_le.mpr h]

/-- A text and its terminator leave the other bytes alone. -/
theorem charAt_terminated_eq_none {chars : Str} {dest last p : Nat}
    (htext : p < dest ∨ dest + chars.length ≤ p) (hnul : p ≠ last) :
    ∀ w ∈ ([⟨dest, .chars chars⟩, ⟨last, .chars ['\x00']⟩] : List Write), w.charAt p = none := by
  intro w hw
  simp only [List.mem_cons, List.not_mem_nil, or_false] at hw
  rcases hw with rfl | rfl
  · exact charAt_chars_eq_none htext
  · refine charAt_chars_eq_none ?_
    rw [List.length_singleton]
    omega

/-- A copy stays inside the buffer and within the terminated text. -/
theorem copyString_within {src : Str} {dest : Nat} {length p : Nat}
    (hp : p < dest ∨ dest + (src.length + 1) ≤ p ∨ dest + length ≤ p) :
    ∀ w ∈ (copyString src dest length).1, w.charAt p = none := by
  intro w hw
  unfold copyString at hw
  split at hw
  · cases hw
  · rename_i hnull
    have hlength : length ≠ 0 := fun h => hnull (.inr h)
    dsimp only at hw
    split at hw
    · have htake : (src.take length).length = min length src.length := List.length_take
      exact charAt_terminated_eq_none (by omega) (by omega) w hw
    · exact charAt_terminated_eq_none (by omega) (by omega) w hw

theorem copyString_of_not_fits {src : Str} {dest : Ptr} {length : Nat} (hd : dest ≠ 0)
    (hl : 1 ≤ length) (h : length ≤ src.length) :
    copyString src dest length =
      ([⟨dest, .chars (src.take length)⟩, ⟨dest + (length - 1), .chars ['\x00']⟩], length - 1) := by
  have h0 : length ≠ 0 := by omega
  have hm : min src.length length = length := by omega
  simp [copyString, hd, h0, hm]

/-- What a buffer of `n` bytes has room for: the longest prefix of the text that leaves a byte for
the terminator, and the terminator. -/
def terminated (s : Str) (n : Nat) : Str := s.take (n - 1) ++ ['\x00']

theorem terminated_of_fits {s : Str} {n : Nat} (h : s.length < n) :
    terminated s n = s ++ ['\x00'] := by
  unfold terminated
  rw [List.take_of_length_le (by omega)]

/-- The buffer of `n` bytes at `p` holds as much of the text as there is room for. -/
def HoldsPrefix (ws : List Write) (p : Ptr) (n : Nat) (s : Str) : Prop :=
  bufferAfter ws p (terminated s n).length = (terminated s n).map some

/-- A text store with the terminator behind its first `k` characters. -/
theorem bufferAfter_terminator {s : Str} {p : Ptr} {k : Nat} (hk : k ≤ s.length) :
    bufferAfter [⟨p, .chars s⟩, ⟨p + k, .chars ['\x00']⟩] p (s.take k ++ ['\x00']).length =
      (s.take k ++ ['\x00']).map some := by
  have htake : (s.take k).length = k := List.length_take_of_le hk
  refine bufferAfter_eq_map_some fun i hi => ?_
  rw [List.length_append, htake, List.length_singleton] at hi
  rw [charAfter_cons, charAfter_cons, charAfter_nil, Option.none_or, charAt_chars_add]
  by_cases hik : i < k
  · rw [charAt_chars_eq_none (.inl (by omega)), Option.none_or,
      List.getElem?_append_left (by omega), List.getElem?_take_of_lt hik]
  · obtain rfl : i = k := by omega
    rw [List.getElem?_append_right (by omega), htake, Nat.sub_self]
    have hnul := charAt_chars_add (p + i) 0 ['\x00']
    rw [Nat.add_zero] at hnul
    rw [hnul]
    rfl

/-- **A copy leaves as much of the text in the buffer as there is room for.** -/
theorem copyString_holdsPrefix {src : Str} {dest : Ptr} {length : Nat} (hd : dest ≠ 0)
    (hl : 1 ≤ length) : HoldsPrefix (copyString src dest length).1 dest length src := by
  unfold HoldsPrefix
  by_cases h : src.length < length
  · have hstored := bufferAfter_terminator (p := dest) (Nat.le_refl src.length)
    rw [List.take_length] at hstored
    rw [copyString_of_fits hd h, terminated_of_fits h]
    exact hstored
  · unfold terminated
    rw [copyString_of_not_fits hd hl (by omega)]
    have htake : (src.take length).length = length := List.length_take_of_le (by omega)
    have hstored := bufferAfter_terminator (s := src.take length) (p := dest) (k := length - 1)
      (by omega)
    rw [List.take_take, Nat.min_eq_left (Nat.sub_le length 1)] at hstored
    exact hstored

/-- Stores before the text do not count. -/
theorem HoldsPrefix.append_left {ws : List Write} {p : Ptr} {n : Nat} {s : Str}
    (h : HoldsPrefix ws p n s) (pre : List Write) : HoldsPrefix (pre ++ ws) p n s := by
  refine bufferAfter_eq_map_some fun i hi => ?_
  have hchar : charAfter ws (p + i) = (terminated s n)[i]? := charAfter_of_bufferAfter h hi
  have hsome : (terminated s n)[i]? = some (terminated s n)[i] := List.getElem?_eq_getElem hi
  rw [charAfter_append, hchar, hsome]
  rfl

/-- Nor do later stores that are no text. -/
theorem HoldsPrefix.append_right {ws post : List Write} {p : Ptr} {n : Nat} {s : Str}
    (h : HoldsPrefix ws p n s) (hpost : ∀ w ∈ post, ∀ q, w.charAt q = none) :
    HoldsPrefix (ws ++ post) p n s := by
  refine bufferAfter_eq_map_some fun i hi => ?_
  have hchar : charAfter ws (p + i) = (terminated s n)[i]? := charAfter_of_bufferAfter h hi
  rw [charAfter_append, charAfter_eq_none fun w hw => hpost w hw _, Option.none_or, hchar]

/-- A copy fills no cell. -/
theorem copyString_cell {src : Str} {dest : Ptr} {length : Nat} :
    ∀ w ∈ (copyString src dest length).1, w.cell = none := by
  intro w hw
  unfold copyString at hw
  split at hw
  · cases hw
  · dsimp only at hw
    split at hw
    all_goals
      simp only [List.mem_cons, List.not_mem_nil, or_false] at hw
      rcases hw with rfl | rfl <;> rfl

end EzRets
