import EzRets.Query

/-!
# EzRets.ObjectKeys — which objects an object query asks for

`execute` turns every `object_key` into an entry of the request, from the first match of an
unanchored pattern.  The entry is the one that the text names only where the match is the whole
text.
-/

namespace EzRets

open FaultRun

namespace OnDemandObjectQuery

/-- The object or objects that a key text names: one object where a colon and a number stand behind
the key, and otherwise all objects of the whole text. -/
inductive AsWritten : Str → Str × Option Int → Prop
  | single (k : Str) {digits : Str} (h : isDigits digits = true) :
      AsWritten (k ++ ':' :: digits) (k, some (digitsValue digits))
  | all {k : Str} (h : ∀ k' digits, isDigits digits = true → k ≠ k' ++ ':' :: digits) :
      AsWritten k (k, none)

/-- A text that the pattern takes for a key. -/
def IsKey (k : Str) : Prop := k ≠ [] ∧ ∀ c ∈ k, isKeyChar c = true

/-- Letters, digits, `'_'` and `'-'`, with or without a number. -/
def IsPlain (key : Str) : Prop :=
  ∃ k, IsKey k ∧ (key = k ∨ ∃ digits, isDigits digits = true ∧ key = k ++ ':' :: digits)

/-- No match for the pattern, or a number that is no `int`. -/
def IsRefused (key : Str) : Prop :=
  (∀ c ∈ key, isKeyChar c = false) ∨
    ∃ before k digits after, key = before ++ (k ++ ':' :: (digits ++ after)) ∧
      (∀ c ∈ before, isKeyChar c = false) ∧ IsKey k ∧ isDigits digits = true ∧
      (∀ c ∈ after.head?, c.isDigit = false) ∧ 2 ^ 31 ≤ digitsValue digits

/-! ## The match -/

/-- The first match in a text: the key and the number behind it. -/
inductive KeyMatch : Str → Option (Str × Option Str) → Prop
  | missing {s : Str} (h : ∀ c ∈ s, isKeyChar c = false) : KeyMatch s none
  | key {before k after : Str} (hbefore : ∀ c ∈ before, isKeyChar c = false) (hk : IsKey k)
      (hafter : ∀ c ∈ after.head?, isKeyChar c = false)
      (hid : ∀ rest, after = ':' :: rest → ∀ c ∈ rest.head?, c.isDigit = false) :
      KeyMatch (before ++ (k ++ after)) (some (k, none))
  | numbered {before k digits after : Str} (hbefore : ∀ c ∈ before, isKeyChar c = false)
      (hk : IsKey k) (hdigits : isDigits digits = true)
      (hafter : ∀ c ∈ after.head?, c.isDigit = false) :
      KeyMatch (before ++ (k ++ ':' :: (digits ++ after))) (some (k, some digits))

/-- The longest start of a text whose characters satisfy `p`. -/
theorem takeWhile_append_of_head {p : Char → Bool} {s after : Str} (hs : ∀ c ∈ s, p c = true)
    (hafter : ∀ c ∈ after.head?, p c = false) :
    (s ++ after).takeWhile p = s ∧ (s ++ after).dropWhile p = after := by
  have hdrop : (s ++ after).dropWhile p = after := by
    rw [List.dropWhile_append_of_pos hs, dropWhile_of_head hafter]
  have hsplit := @List.takeWhile_append_dropWhile _ p (s ++ after)
  rw [hdrop] at hsplit
  exact ⟨List.append_cancel_right hsplit, hdrop⟩

theorem isKeyChar_colon : isKeyChar ':' = false := by decide

theorem exists_keyMatch (key : Str) : ∃ m, KeyMatch key m := by
  have hbefore : ∀ c ∈ key.takeWhile fun c => !isKeyChar c, isKeyChar c = false := by
    intro c hc
    have hc' := List.mem_takeWhile_imp hc
    simpa using hc'
  have hsplit := @List.takeWhile_append_dropWhile _ (fun c => !isKeyChar c) key
  rcases hstart : key.dropWhile fun c => !isKeyChar c with _ | ⟨c, start⟩
  · rw [hstart, List.append_nil] at hsplit
    rw [hsplit] at hbefore
    exact ⟨none, .missing hbefore⟩
  have hc : isKeyChar c = true := by
    have hhead := @head_dropWhile (fun c => !isKeyChar c) key c (by rw [hstart]; rfl)
    simpa using hhead
  have hkey : IsKey ((c :: start).takeWhile isKeyChar) := by
    refine ⟨?_, fun c' hc' => List.mem_takeWhile_imp hc'⟩
    rw [List.takeWhile_cons_of_pos hc]
    exact List.cons_ne_nil _ _
  have hkeysplit := @List.takeWhile_append_dropWhile _ isKeyChar (c :: start)
  have hafter := @head_dropWhile isKeyChar (c :: start)
  rw [hstart, ← hkeysplit] at hsplit
  rw [← hsplit]
  rcases hrest : (c :: start).dropWhile isKeyChar with _ | ⟨c', rest⟩
  · exact ⟨_, .key hbefore hkey (by simp) (by simp)⟩
  rw [hrest] at hafter
  by_cases hcolon : c' = ':'
  · subst hcolon
    by_cases hdigits : isDigits (rest.takeWhile Char.isDigit) = true
    · have hid := @List.takeWhile_append_dropWhile _ Char.isDigit rest
      rw [← hid]
      exact ⟨_, .numbered hbefore hkey hdigits (head_dropWhile rest)⟩
    · refine ⟨_, .key hbefore hkey hafter fun rest' hrest' => ?_⟩
      obtain ⟨-, rfl⟩ := List.cons.inj hrest'
      have hnil : rest.takeWhile Char.isDigit = [] := by
        by_contra hne
        exact hdigits (isDigits_iff.mpr ⟨hne, fun c hc => List.mem_takeWhile_imp hc⟩)
      have hdrop := @List.takeWhile_append_dropWhile _ Char.isDigit rest
      rw [hnil, List.nil_append] at hdrop
      rw [← hdrop]
      exact head_dropWhile rest
  · refine ⟨_, .key hbefore hkey hafter fun rest' hrest' => ?_⟩
    exact absurd (List.cons.inj hrest').1 hcolon

/-- What the entry for a match is. -/
def entryOf : Option (Str × Option Str) → Except Exn (Str × Option Int)
  | none => .error (invalidName "Invalid object_key")
  | some (k, none) => .ok (k, none)
  | some (k, some digits) =>
    if digitsValue digits < 2 ^ 31 then .ok (k, some (digitsValue digits)) else .error .badLexicalCast

/-- **The entry is read off the first match.** -/
theorem KeyMatch.requestEntry {key : Str} {m : Option (Str × Option Str)} (h : KeyMatch key m) :
    requestEntry key = entryOf m := by
  have hskip : ∀ {before k after : Str}, (∀ c ∈ before, isKeyChar c = false) → IsKey k →
      (∀ c ∈ after.head?, isKeyChar c = false) →
      (before ++ (k ++ after)).dropWhile (fun c => !isKeyChar c) = k ++ after ∧
        (k ++ after).takeWhile isKeyChar = k ∧ (k ++ after).dropWhile isKeyChar = after := by
    intro before k after hbefore hk hafter
    have hstart : ∀ c ∈ (k ++ after).head?, (!isKeyChar c) = false := by
      obtain ⟨c, k', rfl⟩ := List.exists_cons_of_ne_nil hk.1
      intro c' hc'
      obtain rfl : c = c' := Option.some.inj hc'
      rw [hk.2 c List.mem_cons_self]
      rfl
    refine ⟨(takeWhile_append_of_head (fun c hc => ?_) hstart).2,
      takeWhile_append_of_head hk.2 hafter⟩
    rw [hbefore c hc]
    rfl
  unfold OnDemandObjectQuery.requestEntry
  rcases h with hmissing | ⟨hbefore, hk, hafter, hid⟩ | ⟨hbefore, hk, hdigits, hafter⟩
  · have hnil : key.dropWhile (fun c => !isKeyChar c) = [] :=
      List.dropWhile_eq_nil_iff.mpr fun c hc => by rw [hmissing c hc]; rfl
    rw [hnil]
    rfl
  · rename_i before k after
    obtain ⟨hdrop, htake, hrest⟩ := hskip hbefore hk hafter
    dsimp only
    rw [hdrop, htake, hrest, if_neg (by simpa using hk.1)]
    split
    · rename_i rest
      have hnil : rest.takeWhile Char.isDigit = [] :=
        (@takeWhile_append_of_head Char.isDigit [] rest (by simp) (hid rest rfl)).1
      rw [hnil]
      rfl
    · rfl
  · rename_i before k digits after
    obtain ⟨hdrop, htake, hrest⟩ := @hskip before k (':' :: (digits ++ after)) hbefore hk
      (by simp [isKeyChar_colon])
    have hid : (digits ++ after).takeWhile Char.isDigit = digits :=
      (takeWhile_append_of_head (isDigits_iff.mp hdigits).2 hafter).1
    dsimp only
    rw [hdrop, htake, hrest, if_neg (by simpa using hk.1)]
    show (if (List.takeWhile _ _).isEmpty = true then _ else _) = _
    rw [hid, if_neg (by simpa using (isDigits_iff.mp hdigits).1),
      lexicalCastSigned_of_isDigits 32 hdigits]
    show _ = if digitsValue digits < 2 ^ 31 then _ else _
    by_cases hint : digitsValue digits < 2 ^ 31
    · rw [if_pos hint, if_pos hint]
    · rw [if_neg hint, if_neg hint]

/-! ## One key -/

/-- An entry is refused in the cases that `IsRefused` lists. -/
theorem exists_requestEntry_iff {key : Str} :
    (∃ e, requestEntry key = .ok e) ↔ ¬ IsRefused key := by
  constructor
  · rintro ⟨e, he⟩ hrefused
    rcases hrefused with hmissing | ⟨before, k, digits, after, rfl, hbefore, hk, hdigits, hafter, hn⟩
    · rw [(KeyMatch.missing hmissing).requestEntry] at he
      cases he
    · have hentry : entryOf (some (k, some digits)) = .error .badLexicalCast :=
        if_neg (Nat.not_lt.mpr hn)
      rw [(KeyMatch.numbered hbefore hk hdigits hafter).requestEntry, hentry] at he
      cases he
  · intro h
    obtain ⟨m, hm⟩ := exists_keyMatch key
    rw [hm.requestEntry]
    rcases hm with hmissing | ⟨hbefore, hk, hafter, hid⟩ | ⟨hbefore, hk, hdigits, hafter⟩
    · exact absurd (.inl hmissing) h
    · exact ⟨_, rfl⟩
    · rename_i before k digits after
      have hn : digitsValue digits < 2 ^ 31 := by
        by_contra hlarge
        exact h (.inr ⟨before, k, digits, after, rfl, hbefore, hk, hdigits, hafter, by omega⟩)
      exact ⟨_, if_pos hn⟩

theorem AsWritten.of_none {key k : Str} (h : AsWritten key (k, none)) : key = k := by
  rcases h with _ | _
  rfl

theorem AsWritten.of_some {key k : Str} {n : Int} (h : AsWritten key (k, some n)) :
    ∃ digits, isDigits digits = true ∧ key = k ++ ':' :: digits := by
  rcases h with ⟨_, hdigits⟩ | _
  exact ⟨_, hdigits, rfl⟩

/-- A plain key is the whole match. -/
theorem IsPlain.asWritten {key : Str} {e : Str × Option Int} (h : IsPlain key)
    (he : requestEntry key = .ok e) : AsWritten key e := by
  obtain ⟨k, hk, rfl | ⟨digits, hdigits, rfl⟩⟩ := h
  · have hmatch := @KeyMatch.key [] key [] (by simp) hk (by simp) (by simp)
    rw [List.nil_append, List.append_nil] at hmatch
    rw [hmatch.requestEntry] at he
    obtain rfl := Except.ok.inj he
    refine .all fun k' digits _ heq => ?_
    have hcolon : isKeyChar ':' = true := hk.2 ':' (by simp [heq])
    exact Bool.false_ne_true (isKeyChar_colon.symm.trans hcolon)
  · have hmatch := @KeyMatch.numbered [] k digits [] (by simp) hk hdigits (by simp)
    rw [List.nil_append, List.append_nil] at hmatch
    rw [hmatch.requestEntry] at he
    unfold entryOf at he
    dsimp only at he
    split_ifs at he
    obtain rfl := Except.ok.inj he
    exact .single k hdigits

/-- **An entry is what the text names** exactly for a plain key. -/
theorem asWritten_requestEntry_iff {key : Str} {e : Str × Option Int}
    (he : requestEntry key = .ok e) : AsWritten key e ↔ IsPlain key := by
  refine ⟨fun h => ?_, fun h => h.asWritten he⟩
  obtain ⟨m, hm⟩ := exists_keyMatch key
  have hkey : ∃ k, IsKey k ∧ e.1 = k := by
    rw [hm.requestEntry] at he
    rcases hm with _ | ⟨_, hk, _, _⟩ | ⟨_, hk, _, _⟩
    · cases he
    · exact ⟨_, hk, by rw [← Except.ok.inj he]⟩
    · unfold entryOf at he
      dsimp only at he
      split_ifs at he
      exact ⟨_, hk, by rw [← Except.ok.inj he]⟩
  obtain ⟨k, n⟩ := e
  obtain ⟨_, hk, rfl⟩ := hkey
  rcases n with _ | n
  · exact ⟨k, hk, .inl h.of_none⟩
  · exact ⟨k, hk, .inr h.of_some⟩

theorem forall₂_asWritten_iff {keys : List Str} {objects : List (Str × Option Int)}
    (h : List.Forall₂ (fun key e => requestEntry key = .ok e) keys objects) :
    List.Forall₂ AsWritten keys objects ↔ ∀ key ∈ keys, IsPlain key := by
  induction h with
  | nil => simp
  | cons he _ ih => rw [List.forall₂_cons, List.forall_mem_cons, asWritten_requestEntry_iff he, ih]

/-! ## The request -/

/-- Every run of `execute` throws, or asks every session for what the keys name, in order. -/
def RequestsAsWritten (q : GetObjectQuery) : Prop :=
  (∃ e, ∀ conn, response conn q = .ok (.error e)) ∨
    ∃ objects, List.Forall₂ AsWritten q.getObjectKeys objects ∧
      ∀ conn, response conn q = conn.session.map fun session =>
        session.getObject ⟨q.getResource, q.getType, q.getUseLocation, objects⟩

/-- A connection to a server that answers only the request `request`. -/
def answering (request : GetObjectRequest) : Connection :=
  ⟨DataSource.init, none,
    some ⟨[], fun _ => .error .unknown, fun r => if r = request then .ok [] else .error .unknown⟩,
    fun _ => .error .unknown⟩

theorem response_of_entries {q : GetObjectQuery} {objects : List (Str × Option Int)}
    (h : q.getObjectKeys.mapM requestEntry = .ok objects) (conn : Connection) :
    response conn q = conn.session.map fun session =>
      session.getObject ⟨q.getResource, q.getType, q.getUseLocation, objects⟩ := by
  unfold response
  rw [h]
  rcases conn.session with _ | session <;> rfl

theorem requestsAsWritten_iff_entries {q : GetObjectQuery} :
    RequestsAsWritten q ↔ ∀ objects, q.getObjectKeys.mapM requestEntry = .ok objects →
      List.Forall₂ AsWritten q.getObjectKeys objects := by
  constructor
  · -- a server that answers the request that is sent tells it from all others
    intro h objects hobjects
    have hsent := response_of_entries hobjects
      (answering ⟨q.getResource, q.getType, q.getUseLocation, objects⟩)
    have hanswer : response (answering ⟨q.getResource, q.getType, q.getUseLocation, objects⟩) q =
        .ok (.ok []) := hsent.trans (congrArg Except.ok (if_pos rfl))
    rcases h with ⟨e, he⟩ | ⟨objects', hnamed, hrequested⟩
    · rw [he] at hanswer
      cases Except.ok.inj hanswer
    · rw [hrequested] at hanswer
      have hsame : (if (⟨q.getResource, q.getType, q.getUseLocation, objects'⟩ : GetObjectRequest) =
            ⟨q.getResource, q.getType, q.getUseLocation, objects⟩ then Except.ok []
          else Except.error Exn.unknown) = (.ok [] : Except Exn GetObjectResponse) :=
        Except.ok.inj hanswer
      split_ifs at hsame with hrequest
      obtain rfl := (GetObjectRequest.mk.inj hrequest).2.2.2
      exact hnamed
  · intro h
    rcases hentries : q.getObjectKeys.mapM requestEntry with e | objects
    · refine .inl ⟨e, fun conn => ?_⟩
      unfold response
      rw [hentries]
    · exact .inr ⟨objects, h objects hentries, response_of_entries hentries⟩

/-- **Object keys are requested as written** exactly when a key stops the call or all of them are
plain. -/
theorem requestsAsWritten_iff (q : GetObjectQuery) :
    RequestsAsWritten q ↔
      (∃ key ∈ q.getObjectKeys, IsRefused key) ∨ ∀ key ∈ q.getObjectKeys, IsPlain key := by
  rw [requestsAsWritten_iff_entries]
  by_cases hrefused : ∃ key ∈ q.getObjectKeys, IsRefused key
  · refine iff_of_true (fun objects hobjects => ?_) (.inl hrefused)
    obtain ⟨key, hkey, hr⟩ := hrefused
    exact absurd hr (exists_requestEntry_iff.mp (exists_of_mapM hobjects hkey))
  · have hall : ∀ key ∈ q.getObjectKeys, ∃ e, requestEntry key = .ok e := fun key hkey =>
      exists_requestEntry_iff.mpr fun hr => hrefused ⟨key, hkey, hr⟩
    obtain ⟨objects, hobjects⟩ := exists_mapM_iff.mpr hall
    rw [or_iff_right hrefused, ← forall₂_asWritten_iff (mapM_eq_ok_iff.mp hobjects)]
    constructor
    · intro h
      exact h objects hobjects
    · intro h objects' hobjects'
      rw [hobjects] at hobjects'
      obtain rfl := Except.ok.inj hobjects'
      exact h

/-- Of a key with a point in it the driver asks for the pictures of another one. -/
theorem not_requestsAsWritten :
    ¬ RequestsAsWritten ⟨"Property".toList, "Photo".toList, false, ["12.345:1".toList]⟩ := by
  intro h
  have hnamed := requestsAsWritten_iff_entries.mp h [("12".toList, none)] rfl
  rcases hnamed with _ | ⟨hkey, -⟩
  exact absurd hkey.of_none (by decide)

end OnDemandObjectQuery

end EzRets
