import EzRets.Delivery
import EzRets.WorkerStores

/-!
# EzRets.IgnoreMetadataType — the option and the result sets that hold no RETS data

`IgnoreMetadataType` is meant for the data of the server.  The queries over metadata make their
result set with the default translator, which does not know the option; `SQLColumns` is the one
that asks the factory for the translator of its statement.
-/

namespace EzRets

open FaultRun

/-! ## The two translators on one value -/

/-- Stores of cells only. -/
def Textless (ws : List Write) : Prop := ∀ w ∈ ws, ∀ s, w.value ≠ .chars s

namespace Textless

variable {ws : List Write}

theorem setResultSize (p : Ptr) (n : Int) : Textless (setResultSize p n) := by
  unfold EzRets.setResultSize
  split_ifs
  · exact List.forall_mem_singleton.mpr fun s h => nomatch h
  · exact fun w hw => nomatch hw

/-- Neither typed values nor the size are text. -/
theorem storeRule (t : Target) : StoreRule t fun w => ∀ s, w.value ≠ .chars s where
  size n := setResultSize t.resultSize n
  typed p v hv s h := by
    obtain rfl : v = .chars s := h
    cases hv

theorem charAt_eq_none (h : Textless ws) (p : Ptr) : ∀ w ∈ ws, w.charAt p = none := by
  intro w hw
  unfold Write.charAt
  split
  · rename_i s hs
    exact absurd hs (h w hw s)
  · rfl

end Textless

namespace TranslationWorker

/-- Only the character and the binary worker store text. -/
theorem textless_translate {worker : TranslationWorker} (hcharacter : worker ≠ .character)
    (hbinary : worker ≠ .binary) (data : Str) (t : Target) :
    Textless (worker.translate data t).writes :=
  (Textless.storeRule t).translate worker data fun htext =>
    (htext.elim hcharacter hbinary).elim

end TranslationWorker

namespace DataTranslator

variable {decimalAsString : Bool} {type : Int} {data : Str}

/-- The option does not show in a value: text types have the same worker under both translators,
and an empty value is an SQL `NULL` for every worker. -/
def Unaffected (decimalAsString : Bool) (type : Int) (data : Str) : Prop :=
  (IsCharacter type ∨ IsBinary type) ∨
    (data = [] ∧ (odbc2Trans decimalAsString type).isSome = true)

instance : Decidable (Unaffected decimalAsString type data) :=
  inferInstanceAs (Decidable (_ ∨ _))

theorem ite_ne {α : Type} {p : Prop} [Decidable p] {a b x : α} (ha : a ≠ x) (hb : b ≠ x) :
    (if p then a else b) ≠ x := by
  split_ifs
  · exact ha
  · exact hb

/-- Other types are never served by the workers of text. -/
theorem odbc2Trans_of_not_text (h : ¬ (IsCharacter type ∨ IsBinary type)) :
    odbc2Trans decimalAsString type ≠ some .character ∧
      odbc2Trans decimalAsString type ≠ some .binary := by
  have hcharacter : ¬ (type = sqlVarchar ∨ type = sqlChar) := fun hc => h (.inl hc.symm)
  have hbinary : ¬ (type = sqlLongvarbinary ∨ type = sqlBinary ∨ type = sqlVarbinary) := by
    rintro (rfl | rfl | rfl)
    all_goals exact h (.inr (by decide))
  unfold odbc2Trans
  rw [if_neg hcharacter, if_neg hbinary]
  constructor
  all_goals
    repeat' apply ite_ne
    all_goals decide

theorem charOnly_eq_character (h : ¬ IsBinary type) (t : Target) :
    charOnly.translate data type t = TranslationWorker.translateCharacter data t := by
  have hworker : exceptionWorker type = .character := by
    unfold exceptionWorker
    unfold IsBinary at h
    rw [if_neg (by tauto)]
  simp only [translate, hworker]
  rfl

/-- **A value that the option does not show in** is translated alike. -/
theorem translate_of_unaffected (h : Unaffected decimalAsString type data) (t : Target) :
    charOnly.translate data type t = (native decimalAsString).translate data type t := by
  rcases h with (hcharacter | hbinary) | ⟨rfl, hworker⟩
  · rw [translate_character _ hcharacter, translate_character _ hcharacter]
  · rw [translate_binary _ hbinary, translate_binary _ hbinary]
  · obtain ⟨worker, hworker⟩ := Option.isSome_iff_exists.mp hworker
    have hnative : (native decimalAsString).translate [] type t = t.null := by
      simp only [translate, hworker, TranslationWorker.translate_nil]
      rfl
    rw [hnative]
    exact TranslationWorker.translate_nil (exceptionWorker type) t

/-- The native translator stores no text for a type that is not a text type. -/
theorem textless_native (h : ¬ (IsCharacter type ∨ IsBinary type)) (t : Target) :
    Textless ((native decimalAsString).translate data type t).writes := by
  rcases hworker : odbc2Trans decimalAsString type with _ | worker
  · simp only [translate, hworker]
    exact Textless.setResultSize _ _
  · obtain ⟨hcharacter, hbinary⟩ : odbc2Trans decimalAsString type ≠ some .character ∧
        odbc2Trans decimalAsString type ≠ some .binary := odbc2Trans_of_not_text h
    rw [hworker] at hcharacter hbinary
    have hcharacter : worker ≠ .character := fun he => hcharacter (congrArg some he)
    have hbinary : worker ≠ .binary := fun he => hbinary (congrArg some he)
    have hworks := TranslationWorker.textless_translate hcharacter hbinary data t
    simp only [translate, hworker, convertBadCast]
    split_ifs
    · exact hworks
    · exact hworks

/-- A type without a worker: the native translator refuses every value. -/
theorem translate_missing (h : odbc2Trans decimalAsString type = none) (t : Target) :
    ∃ what, ((native decimalAsString).translate data type t).thrown =
      some (.missingTranslator what) := by
  simp only [translate, h]
  exact ⟨_, rfl⟩

/-- The character-only translator treats every type as a type of text. -/
theorem charOnly_as_text (type : Int) :
    ∃ type', (IsCharacter type' ∨ IsBinary type') ∧
      ∀ data t, charOnly.translate data type t = charOnly.translate data type' t := by
  by_cases hbinary : IsBinary type
  · exact ⟨type, .inr hbinary, fun _ _ => rfl⟩
  · refine ⟨sqlChar, .inl (.inl rfl), fun data t => ?_⟩
    rw [charOnly_eq_character hbinary, translate_character _ (.inl rfl)]

theorem charOnly_thrown {t : Target} (ht : t.streamInfo = none) (htarget : t.target ≠ 0) :
    (charOnly.translate data type t).thrown = none := by
  obtain ⟨type', htext, heq⟩ := charOnly_as_text type
  rw [heq]
  exact translate_none_thrown _ htext ht htarget

/-- Nothing is stored in front of the buffer. -/
theorem charOnly_before {t : Target} (ht : t.streamInfo = none) (htarget : t.target ≠ 0) {p : Nat}
    (hp : p < t.target) : ∀ w ∈ (charOnly.translate data type t).writes, w.charAt p = none := by
  obtain ⟨type', htext, heq⟩ := charOnly_as_text type
  rw [heq]
  exact translate_none_within _ htext ht htarget fun _ => .inl hp

/-- The first character of a value, delivered to a buffer of two bytes. -/
theorem charOnly_first {t : Target} (h : ¬ IsBinary type) (hdata : data ≠ [])
    (htarget : t.target ≠ 0) (hind : t.resultSize ≠ 0) (hlength : t.targetLen = 2)
    (ht : ∀ info, t.streamInfo = some info → info.offset = 0) :
    charAfter (charOnly.translate data type t).writes t.target ≠ none := by
  rw [charOnly_eq_character h]
  rcases hstream : t.streamInfo with _ | info
  · rw [translateCharacter_none hdata hstream, hlength]
    have hcopy : HoldsPrefix (copyString data t.target (toSize 2)).1 t.target (toSize 2) data :=
      copyString_holdsPrefix htarget (by decide)
    have hholds : HoldsPrefix ((copyString data t.target (toSize 2)).1 ++
        setResultSize t.resultSize (copyString data t.target (toSize 2)).2) t.target (toSize 2)
        data := hcopy.append_right fun w hw q => charAt_setResultSize w hw
    have hfirst := charAfter_of_bufferAfter (i := 0) hholds (by simp [terminated])
    rw [Nat.add_zero] at hfirst
    dsimp only
    rw [hfirst]
    simp [terminated]
  · have hoff := ht info hstream
    have hportion := portion_character hdata hstream (by omega) htarget hind
      (by omega)
    have hchunk : (Chunks.chunk data info.offset (t.targetLen - 1).toNat).length ≠ 0 := by
      have hpos : 0 < data.length := List.length_pos_iff.mpr hdata
      rw [Chunks.length_chunk, hoff, hlength]
      show min 1 (data.length - 0) ≠ 0
      omega
    have hfirst := hportion.buffer 0 (by omega)
    rw [Nat.add_zero] at hfirst
    rw [hfirst]
    simpa using hchunk

end DataTranslator

namespace RetsSTMT

/-! ## The option and the two ways of reading -/

/-- Two result sets deliver the row `row` alike to every fetch for which the columns are bound with
the target types `types`. -/
def SameFetch (on off : ResultSet) (row : List Str) (types : Nat → Option Int) : Prop :=
  ∀ (ctx : CallContext) (stmt : RetsSTMT) (bound : Nat → Option Binding) (rows : BulkRows),
    (∀ i, (bound i).map Binding.targetType = types i) →
    (∀ i b, bound i = some b → b.targetValue ≠ 0) →
    (∃ rs', (on.reading bound rows).MovesTo (.bulk row) rs') →
    ((stmt.setResultSet (on.reading bound rows)).sqlFetch ctx).map StmtOut.delivery =
      ((stmt.setResultSet (off.reading bound rows)).sqlFetch ctx).map StmtOut.delivery

/-- Two result sets that stand on the row `row` deliver alike to every `SQLGetData` that asks for a
column with the type that `types` has for it. -/
def SameGetData (on off : ResultSet) (row : List Str) (types : Nat → Option Int) : Prop :=
  ∀ (ctx : CallContext) (stmt : RetsSTMT) (bound : Nat → Option Binding) (rows : BulkRows) (n : Nat)
    (b : Binding), types (n - 1) = some b.targetType →
    rows.mResults[rows.mResultIterator]? = some row →
    ((stmt.setResultSet (on.reading bound rows)).sqlGetData ctx n b).map StmtOut.delivery =
      ((stmt.setResultSet (off.reading bound rows)).sqlGetData ctx n b).map StmtOut.delivery

/-! ## Result sets of fixed-type columns -/

section Faux

variable {cols : List Column} {row : List Str} {types : Nat → Option Int} {decimalAsString : Bool}
  {bound : Nat → Option Binding} {rows : BulkRows}

/-- The option does not show in any value of the row that is asked for with the types `types`. -/
def AllUnaffected (decimalAsString : Bool) (cols : List Column) (row : List Str)
    (types : Nat → Option Int) : Prop :=
  ∀ i col type data, cols[i]? = some col → types i = some type → row[i]? = some data →
    DataTranslator.Unaffected decimalAsString (col.getBestSqlType .default type) data

/-- A cell is sent alike when the option does not show in its value. -/
theorem cellData_of_allUnaffected (hfaux : AllFaux cols)
    (h : AllUnaffected decimalAsString cols row types)
    (htypes : ∀ i, (bound i).map Binding.targetType = types i) {deref : Deref} {ard : AppRowDesc}
    {dt : DataTranslator} {j : Nat} {cell : Column × Str}
    (hcell : ((RowData.bulk row).cells
      ((bulkResultSet dt cols).reading bound rows).mColumns).cells[j]? = some cell) :
    cellData deref ard .charOnly j cell = cellData deref ard (.native decimalAsString) j cell := by
  rcases cellData_faux hfaux hcell with ⟨hb, hsent⟩ | ⟨b, col, data, hb, hcol, hdata, hsent⟩
  · rw [hsent, hsent]
  · have htype : types j = some b.targetType := by rw [← htypes j, hb, Option.map_some]
    rw [hsent, hsent]
    exact DataTranslator.translate_of_unaffected (h j col b.targetType data hcol htype hdata) _

/-- **Values in which the option does not show** are fetched alike. -/
theorem sameFetch_of_allUnaffected (hfaux : AllFaux cols)
    (h : AllUnaffected decimalAsString cols row types) :
    SameFetch (bulkResultSet .charOnly cols) (bulkResultSet (.native decimalAsString) cols) row
      types := by
  intro ctx stmt bound rows htypes _ hmove
  obtain ⟨rs', hmove⟩ := hmove
  obtain ⟨hempty, moved, moved', hnext, hadvance, -⟩ := id hmove
  have hmove' : ((bulkResultSet (.native decimalAsString) cols).reading bound rows).MovesTo
      (.bulk row) _ := ⟨hempty, moved, moved', hnext, hadvance, rfl⟩
  refine (sqlFetch_delivery rfl hmove).trans (Eq.trans ?_ (sqlFetch_delivery rfl hmove').symm)
  refine congrArg (fun sent => Except.ok (stmt.fetchDelivery sent _)) (setCells_congr ?_)
  intro j cell hj
  rw [Nat.zero_add]
  exact cellData_of_allUnaffected hfaux h htypes hj

/-- The bindings that show the value at index `i`: its buffer of two bytes is at 1, those of the
other columns are behind it. -/
def probe (types : Nat → Option Int) (i j : Nat) : Option Binding :=
  (types j).map fun type => if j = i then ⟨type, 1, 2, 5⟩ else ⟨type, 3, 0, 5⟩

theorem probe_types (i : Nat) (j : Nat) : (probe types i j).map Binding.targetType = types j := by
  unfold probe
  rcases types j with _ | type
  · rfl
  · show some (if j = i then (⟨type, 1, 2, 5⟩ : Binding) else ⟨type, 3, 0, 5⟩).targetType =
      some type
    split_ifs <;> rfl

theorem probe_target {i j : Nat} {b : Binding} (h : probe types i j = some b) :
    b.targetValue = if j = i then 1 else 3 := by
  obtain ⟨type, -, rfl⟩ := Option.map_eq_some_iff.mp h
  split_ifs <;> rfl

/-- A new result set that holds one row moves to it. -/
theorem movesTo_single (dt : DataTranslator) :
    ∃ rs', ((bulkResultSet dt cols).reading bound (BulkRows.new.addRow row)).MovesTo (.bulk row)
      rs' := ⟨_, rfl, _, _, rfl, rfl, rfl⟩

section Probe

variable {i : Nat} {col : Column} {type : Int} {data : Str} (hfaux : AllFaux cols)
  (hcol : cols[i]? = some col) (htype : types i = some type) (hdata : row[i]? = some data)

/-- The cells of the row with the columns bound by `probe`. -/
def probeCells (cols : List Column) (row : List Str) (types : Nat → Option Int) (i : Nat) :
    List (Column × Str) :=
  ((RowData.bulk row).cells (((bulkResultSet .charOnly cols).reading (probe types i)
    (BulkRows.new.addRow row)).mColumns)).cells

include hcol hdata in
theorem probeCells_getElem :
    (probeCells cols row types i)[i]? = some ({ col with binding := probe types i i }, data) := by
  refine List.getElem?_zip_eq_some.mpr ⟨?_, hdata⟩
  show (cols.mapIdx fun i' col => { col with binding := probe types i i' })[i]? = _
  rw [List.getElem?_mapIdx, hcol]
  rfl

include hfaux in
/-- What the probe sends for a cell: nothing, or the value to its own buffer. -/
theorem probe_cell {j : Nat} {cell : Column × Str}
    (hj : (probeCells cols row types i)[j]? = some cell) :
    (types j = none ∧ ∀ dt, cellData idleContext.deref AppRowDesc.new dt j cell =
        ⟨[], none, none⟩) ∨
      ∃ type' col' data', types j = some type' ∧ cols[j]? = some col' ∧ row[j]? = some data' ∧
        ∀ dt : DataTranslator, cellData idleContext.deref AppRowDesc.new dt j cell =
          dt.translate data' (col'.getBestSqlType .default type')
            ⟨if j = i then 1 else 3, if j = i then 2 else 0, 5, none⟩ := by
  rcases cellData_faux hfaux hj with ⟨hb, hsent⟩ | ⟨b, col', data', hb, hcol', hdata', hsent⟩
  · exact .inl ⟨Option.map_eq_none_iff.mp hb, hsent⟩
  · right
    obtain ⟨type', htype', rfl⟩ := Option.map_eq_some_iff.mp hb
    refine ⟨type', col', data', htype', hcol', hdata', fun dt => ?_⟩
    rw [hsent dt]
    by_cases hji : j = i
    · simp only [if_pos hji]
      rfl
    · simp only [if_neg hji]
      rfl

include hfaux in
theorem probe_thrown :
    (setCells idleContext.deref AppRowDesc.new .charOnly 0 (probeCells cols row types i)).2 =
      none := by
  refine setCells_thrown fun j cell hj => ?_
  rw [Nat.zero_add]
  rcases probe_cell hfaux hj with ⟨-, hsent⟩ | ⟨type', col', data', -, -, -, hsent⟩
  · rw [hsent]
  · rw [hsent]
    refine DataTranslator.charOnly_thrown rfl ?_
    show (if j = i then 1 else 3) ≠ 0
    split_ifs <;> decide

include hfaux hcol htype hdata in
/-- With the option on, the buffer of column `i` holds the start of the value. -/
theorem probe_text_on (htext : ¬ IsBinary (col.getBestSqlType .default type)) (hne : data ≠ []) :
    charAfter (setCells idleContext.deref AppRowDesc.new .charOnly 0
      (probeCells cols row types i)).1 1 ≠ none := by
  have hi : (probeCells cols row types i)[i]? =
      some ({ col with binding := probe types i i }, data) := probeCells_getElem hcol hdata
  obtain ⟨pre, post, hwrites, hother⟩ := setCells_split (probe_thrown hfaux) hi
  have hmiss : ∀ w ∈ pre ++ post, w.charAt 1 = none := by
    intro w hw
    obtain ⟨j, cell, hji, hj, hw⟩ := hother w hw
    rw [Nat.zero_add] at hw
    rcases probe_cell hfaux hj with ⟨-, hsent⟩ | ⟨type', col', data', -, -, -, hsent⟩
    · rw [hsent] at hw
      cases hw
    · rw [hsent, if_neg hji, if_neg hji] at hw
      exact DataTranslator.charOnly_before rfl (by decide) (by decide) w hw
  rw [hwrites, charAfter_append_append hmiss, Nat.zero_add]
  rcases probe_cell hfaux hi with ⟨hnone, -⟩ | ⟨type', col', data', htype', hcol', hdata', hsent⟩
  · rw [htype] at hnone
    cases hnone
  · obtain rfl : col' = col := Option.some.inj (hcol'.symm.trans hcol)
    obtain rfl : type' = type := Option.some.inj (htype'.symm.trans htype)
    obtain rfl : data' = data := Option.some.inj (hdata'.symm.trans hdata)
    rw [hsent, if_pos rfl, if_pos rfl]
    exact DataTranslator.charOnly_first htext hne (by decide) (by decide) rfl (by simp)

include hfaux hcol htype in
/-- With the option off, there is no text in it. -/
theorem probe_text_off
    (htext : ¬ (IsCharacter (col.getBestSqlType .default type) ∨
      IsBinary (col.getBestSqlType .default type))) :
    charAfter (setCells idleContext.deref AppRowDesc.new (.native decimalAsString) 0
      (probeCells cols row types i)).1 1 = none := by
  refine charAfter_eq_none fun w hw => ?_
  obtain ⟨j, cell, hj, hw⟩ := mem_setCells hw
  rw [Nat.zero_add] at hw
  rcases probe_cell hfaux hj with ⟨-, hsent⟩ | ⟨type', col', data', htype', hcol', -, hsent⟩
  · rw [hsent] at hw
    cases hw
  · rw [hsent] at hw
    by_cases htext' : IsCharacter (col'.getBestSqlType .default type') ∨
        IsBinary (col'.getBestSqlType .default type')
    · have hji : j ≠ i := by
        rintro rfl
        obtain rfl : col' = col := Option.some.inj (hcol'.symm.trans hcol)
        obtain rfl : type' = type := Option.some.inj (htype'.symm.trans htype)
        exact htext htext'
      rw [if_neg hji, if_neg hji] at hw
      exact translate_none_within _ htext' rfl (by decide) (fun _ => .inl (by decide)) w hw
    · exact (DataTranslator.textless_native htext' _).charAt_eq_none 1 w hw

/-- What ends the loop over the columns of the probe. -/
def probeCut (cols : List Column) (row : List Str) (types : Nat → Option Int) (i : Nat) :
    Option Exn :=
  ((RowData.bulk row).cells (((bulkResultSet .charOnly cols).reading (probe types i)
    (BulkRows.new.addRow row)).mColumns)).thrown

theorem probeCut_cases :
    probeCut cols row types i = none ∨ probeCut cols row types i = some .outOfRange := by
  show (if row.length ≤ _ then none else some Exn.outOfRange) = none ∨
    (if row.length ≤ _ then none else some Exn.outOfRange) = some .outOfRange
  split_ifs
  · exact .inl rfl
  · exact .inr rfl

theorem probe_delivery (h : SameFetch (bulkResultSet .charOnly cols)
      (bulkResultSet (.native decimalAsString) cols) row types) (i : Nat) :
    RetsSTMT.new.fetchDelivery (setCells idleContext.deref AppRowDesc.new .charOnly 0
        (probeCells cols row types i)) (probeCut cols row types i) =
      RetsSTMT.new.fetchDelivery (setCells idleContext.deref AppRowDesc.new
        (.native decimalAsString) 0 (probeCells cols row types i)) (probeCut cols row types i) := by
  have htarget : ∀ j b, probe types i j = some b → b.targetValue ≠ 0 := by
    intro j b hb
    rw [probe_target hb]
    split_ifs <;> decide
  have hboth := h idleContext RetsSTMT.new (probe types i) (BulkRows.new.addRow row)
    (probe_types i) htarget (movesTo_single _)
  obtain ⟨_, hon⟩ : ∃ rs', ((bulkResultSet .charOnly cols).reading (probe types i)
      (BulkRows.new.addRow row)).MovesTo (.bulk row) rs' := movesTo_single _
  obtain ⟨_, hoff⟩ : ∃ rs', ((bulkResultSet (.native decimalAsString) cols).reading (probe types i)
      (BulkRows.new.addRow row)).MovesTo (.bulk row) rs' := movesTo_single _
  exact Except.ok.inj (((sqlFetch_delivery rfl hon).symm.trans hboth).trans
    (sqlFetch_delivery rfl hoff))

include hfaux hcol htype hdata in
/-- **A non-empty value of a type that is no text** shows the option to a fetch. -/
theorem not_sameFetch_of_text
    (htext : ¬ (IsCharacter (col.getBestSqlType .default type) ∨
      IsBinary (col.getBestSqlType .default type))) (hne : data ≠ []) :
    ¬ SameFetch (bulkResultSet .charOnly cols) (bulkResultSet (.native decimalAsString) cols) row
      types := by
  intro hsame
  have htexts := congrFun (congrArg Delivery.text (probe_delivery hsame i)) 1
  rw [fetchDelivery_text, fetchDelivery_text, probe_text_off hfaux hcol htype htext] at htexts
  exact probe_text_on hfaux hcol htype hdata (fun hb => htext (.inr hb)) hne htexts

/-- The exception of a row is that of a missing worker when no other can occur. -/
theorem setCells_missing {deref : Deref} {ard : AppRowDesc} {dt : DataTranslator} {count : Nat}
    {cells : List (Column × Str)}
    (h : ∀ j cell, cells[j]? = some cell → (cellData deref ard dt (count + j) cell).thrown = none ∨
      ∃ what, (cellData deref ard dt (count + j) cell).thrown = some (.missingTranslator what))
    {j : Nat} {cell : Column × Str} (hj : cells[j]? = some cell)
    (hthrown : (cellData deref ard dt (count + j) cell).thrown ≠ none) :
    ∃ what, (setCells deref ard dt count cells).2 = some (.missingTranslator what) := by
  induction cells generalizing count j with
  | nil => cases hj
  | cons first cells ih =>
    rw [setCells]
    rcases h 0 first rfl with hfirst | ⟨what, hfirst⟩
    · rw [Nat.add_zero] at hfirst
      dsimp only
      rw [hfirst]
      rcases j with _ | j
      · cases hj
        exact absurd hfirst hthrown
      · have hcount : count + (j + 1) = count + 1 + j := by omega
        rw [hcount] at hthrown
        refine ih (fun j' cell' hj' => ?_) hj hthrown
        have hcell := h (j' + 1) cell' hj'
        rwa [Nat.add_comm j' 1, ← Nat.add_assoc] at hcell
    · rw [Nat.add_zero] at hfirst
      dsimp only
      rw [hfirst]
      exact ⟨what, rfl⟩

theorem not_unaffected_of_ne {type : Int} {data : Str} (hne : data ≠ []) :
    ¬ DataTranslator.Unaffected decimalAsString type data ↔
      ¬ (IsCharacter type ∨ IsBinary type) := by
  unfold DataTranslator.Unaffected
  tauto

theorem not_unaffected_nil {type : Int} :
    ¬ DataTranslator.Unaffected decimalAsString type [] ↔
      ¬ (IsCharacter type ∨ IsBinary type) ∧
        DataTranslator.odbc2Trans decimalAsString type = none := by
  unfold DataTranslator.Unaffected
  rw [not_or, not_and, Option.not_isSome_iff_eq_none]
  tauto

include hfaux hcol htype hdata in
/-- **An empty value of a type that has no worker** shows the option to a fetch, when no other value
does. -/
theorem not_sameFetch_of_missing
    (hmissing : DataTranslator.odbc2Trans decimalAsString (col.getBestSqlType .default type) = none)
    (hothers : ∀ j col' type' data', cols[j]? = some col' → types j = some type' →
      row[j]? = some data' → data' ≠ [] →
      DataTranslator.Unaffected decimalAsString (col'.getBestSqlType .default type') data') :
    ¬ SameFetch (bulkResultSet .charOnly cols) (bulkResultSet (.native decimalAsString) cols) row
      types := by
  intro hsame
  have hi : (probeCells cols row types i)[i]? =
      some ({ col with binding := probe types i i }, data) := probeCells_getElem hcol hdata
  have hcells : ∀ j cell, (probeCells cols row types i)[j]? = some cell →
      (cellData idleContext.deref AppRowDesc.new (.native decimalAsString) (0 + j) cell).thrown =
        none ∨ ∃ what, (cellData idleContext.deref AppRowDesc.new (.native decimalAsString) (0 + j)
          cell).thrown = some (.missingTranslator what) := by
    intro j cell hj
    rw [Nat.zero_add]
    rcases probe_cell hfaux hj with ⟨-, hsent⟩ | ⟨type', col', data', htype', hcol', hdata', hsent⟩
    · rw [hsent]
      exact .inl rfl
    · rw [hsent]
      by_cases hun : DataTranslator.Unaffected decimalAsString
          (col'.getBestSqlType .default type') data'
      · rw [← DataTranslator.translate_of_unaffected hun]
        refine .inl (DataTranslator.charOnly_thrown rfl ?_)
        show (if j = i then 1 else 3) ≠ 0
        split_ifs <;> decide
      · obtain rfl : data' = [] := by
          by_contra hne
          exact hun (hothers j col' type' data' hcol' htype' hdata' hne)
        exact .inr (DataTranslator.translate_missing (not_unaffected_nil.mp hun).2 _)
  have hithrown : (cellData idleContext.deref AppRowDesc.new (.native decimalAsString) (0 + i)
      ({ col with binding := probe types i i }, data)).thrown ≠ none := by
    rw [Nat.zero_add]
    rcases probe_cell hfaux hi with ⟨hnone, -⟩ | ⟨type', col', data', htype', hcol', -, hsent⟩
    · rw [htype] at hnone
      cases hnone
    · obtain rfl : col' = col := Option.some.inj (hcol'.symm.trans hcol)
      obtain rfl : type' = type := Option.some.inj (htype'.symm.trans htype)
      obtain ⟨what, hwhat⟩ := @DataTranslator.translate_missing _ _ data' hmissing
        ⟨if i = i then 1 else 3, if i = i then 2 else 0, 5, none⟩
      rw [hsent, hwhat]
      exact fun h => nomatch h
  obtain ⟨what, hoff⟩ := setCells_missing hcells hi hithrown
  have hrecords := congrArg Delivery.records (probe_delivery hsame i)
  unfold fetchDelivery at hrecords
  rw [probe_thrown hfaux, hoff] at hrecords
  have hcut : probeCut cols row types i = none ∨ probeCut cols row types i = some .outOfRange :=
    probeCut_cases
  rcases hcut with hcut | hcut
  · rw [hcut] at hrecords
    cases hrecords
  · rw [hcut] at hrecords
    have hstates : ["01S01".toList] = ["HY000".toList] :=
      congrArg (List.map Error.mSqlstate) hrecords
    exact absurd hstates (by decide)

include hfaux in
/-- **A fetch shows the option exactly in these values.** -/
theorem sameFetch_iff :
    SameFetch (bulkResultSet .charOnly cols) (bulkResultSet (.native decimalAsString) cols) row
      types ↔ AllUnaffected decimalAsString cols row types := by
  refine ⟨fun hsame => ?_, sameFetch_of_allUnaffected hfaux⟩
  have hnonempty : ∀ i col type data, cols[i]? = some col → types i = some type →
      row[i]? = some data → data ≠ [] →
      DataTranslator.Unaffected decimalAsString (col.getBestSqlType .default type) data := by
    intro i col type data hcol htype hdata hne
    by_contra hun
    exact not_sameFetch_of_text hfaux hcol htype hdata ((not_unaffected_of_ne hne).mp hun) hne hsame
  intro i col type data hcol htype hdata
  by_cases hne : data = []
  · subst hne
    by_contra hun
    exact not_sameFetch_of_missing hfaux hcol htype hdata (not_unaffected_nil.mp hun).2 hnonempty
      hsame
  · exact hnonempty i col type data hcol htype hdata hne

end Probe

/-! ## Reads -/

section Read

variable {n i : Nat} {b : Binding} {col : Column} {type : Int} {data : Str} {info : DataStreamInfo}
  {deref : Deref} {ard : AppRowDesc}

/-- **Values in which the option does not show** are read alike. -/
theorem sameGetData_of_allUnaffected (hfaux : AllFaux cols)
    (h : AllUnaffected decimalAsString cols row types) :
    SameGetData (bulkResultSet .charOnly cols) (bulkResultSet (.native decimalAsString) cols) row
      types := by
  intro ctx stmt bound rows n b htype hrow
  set on := stmt.setResultSet ((bulkResultSet .charOnly cols).reading bound rows)
  set off := stmt.setResultSet ((bulkResultSet (.native decimalAsString) cols).reading bound rows)
  have hread : ∃ got,
      ((bulkResultSet .charOnly cols).reading bound rows).getData ctx.deref stmt.ard n b
        (stmt.streamFor n) = .ok got ∧
      ((bulkResultSet (.native decimalAsString) cols).reading bound rows).getData ctx.deref stmt.ard
        n b (stmt.streamFor n) = .ok got := by
    by_cases hout : n = 0 ∨ cols[n - 1]? = none ∨ row[n - 1]? = none
    · exact ⟨_, getData_outOfRange hrow hout _, getData_outOfRange hrow hout _⟩
    · rw [not_or, not_or] at hout
      obtain ⟨hn, hcol, hdata⟩ := hout
      obtain ⟨i, rfl⟩ : ∃ i, n = i + 1 := ⟨n - 1, by omega⟩
      rw [Nat.add_sub_cancel] at htype hcol hdata
      obtain ⟨col, hcol⟩ := Option.ne_none_iff_exists'.mp hcol
      obtain ⟨data, hdata⟩ := Option.ne_none_iff_exists'.mp hdata
      refine ⟨_, getData_faux hfaux hcol hdata hrow _, ?_⟩
      rw [getData_faux hfaux hcol hdata hrow,
        DataTranslator.translate_of_unaffected (h i col b.targetType data hcol htype hdata)]
  obtain ⟨got, hon, hoff⟩ := hread
  by_cases hstatus : (stmt.streamFor n).status = .noMoreData
  · have hon' : on.sqlGetData ctx n b = _ := sqlGetData_noData ctx b rfl hstatus
    have hoff' : off.sqlGetData ctx n b = _ := sqlGetData_noData ctx b rfl hstatus
    rw [hon', hoff']
    rfl
  · have hon' : (on.sqlGetData ctx n b).map StmtOut.delivery = _ :=
      sqlGetData_delivery rfl hstatus hon
    have hoff' : (off.sqlGetData ctx n b).map StmtOut.delivery = _ :=
      sqlGetData_delivery rfl hstatus hoff
    rw [hon', hoff']
    rfl

/-- **A read shows the option exactly in these values.** -/
theorem sameGetData_iff (hfaux : AllFaux cols) :
    SameGetData (bulkResultSet .charOnly cols) (bulkResultSet (.native decimalAsString) cols) row
      types ↔ AllUnaffected decimalAsString cols row types := by
  refine ⟨fun hsame => ?_, sameGetData_of_allUnaffected hfaux⟩
  intro i col type data hcol htype hdata
  by_contra hun
  have hboth := hsame idleContext RetsSTMT.new (fun _ => none) (BulkRows.new.addRow row) (i + 1)
    ⟨type, 1, 2, 5⟩ htype rfl
  have hstatus : (RetsSTMT.new.streamFor (i + 1)).status ≠ .noMoreData := fun h => nomatch h
  have hrow : (BulkRows.new.addRow row).mResults[(BulkRows.new.addRow row).mResultIterator]? =
      some row := rfl
  have hdelivered : ∀ dt : DataTranslator, ((RetsSTMT.new.setResultSet ((bulkResultSet dt
      cols).reading (fun _ => none) (BulkRows.new.addRow row))).sqlGetData idleContext (i + 1)
        ⟨type, 1, 2, 5⟩).map StmtOut.delivery = .ok (RetsSTMT.new.readDelivery
          (RetsSTMT.new.streamFor (i + 1)) (dt.translate data (col.getBestSqlType .default type)
            ⟨1, 2, 5, some (RetsSTMT.new.streamFor (i + 1))⟩)) := by
    intro dt
    exact sqlGetData_delivery rfl hstatus (getData_faux hfaux hcol hdata hrow dt)
  rw [hdelivered, hdelivered] at hboth
  have hsame := Except.ok.inj hboth
  by_cases hne : data = []
  · subst hne
    obtain ⟨what, hoff⟩ := @DataTranslator.translate_missing decimalAsString _ []
      (not_unaffected_nil.mp hun).2 ⟨1, 2, 5, some (RetsSTMT.new.streamFor (i + 1))⟩
    have hon : DataTranslator.charOnly.translate [] (col.getBestSqlType .default type)
        ⟨1, 2, 5, some (RetsSTMT.new.streamFor (i + 1))⟩ = _ := TranslationWorker.translate_nil _ _
    have hrecords := congrArg Delivery.records hsame
    unfold readDelivery at hrecords
    rw [hon, hoff] at hrecords
    cases hrecords
  · have htext := (not_unaffected_of_ne hne).mp hun
    have htexts := congrFun (congrArg Delivery.text hsame) 1
    rw [readDelivery_text, readDelivery_text, charAfter_eq_none
      ((DataTranslator.textless_native htext _).charAt_eq_none 1)] at htexts
    refine DataTranslator.charOnly_first (fun hb => htext (.inr hb)) hne Nat.one_ne_zero
      (Nat.succ_ne_zero 4) rfl ?_ htexts
    rintro info ⟨⟩
    rfl

end Read

end Faux

end RetsSTMT

/-! ## The queries -/

/-- The connection with `IgnoreMetadataType` on or off. -/
def Connection.ignoring (conn : Connection) (on : Bool) : Connection :=
  { conn with mDataSource := { conn.mDataSource with
      bool := Function.update conn.mDataSource.bool .ignoreMetadataType on } }

namespace Query

variable {conn : Connection} {kind : QueryKind}

/-- Every query over metadata but `SQLColumns` prepares its result set without the option. -/
theorem prepareResultSet_ignoring (hbulk : kind.resultSetType = some .bulk)
    (hkind : ∀ table column, kind ≠ .columnMetadata table column) :
    prepareResultSet (conn.ignoring true) kind = prepareResultSet (conn.ignoring false) kind := by
  cases kind with
  | columnMetadata table column => exact absurd rfl (hkind table column)
  | onDemandData useCompactFormat q => cases hbulk
  | onDemandObject q => cases hbulk
  | _ => rfl

end Query

namespace RetsSTMT

theorem allFaux_columns : AllFaux ColumnMetadataQuery.columns := by
  simp [AllFaux, ColumnMetadataQuery.columns, Column.faux]

/-- The option does not show: the query is not `SQLColumns`, or no value of the row is asked for as
a type whose worker depends on the option. -/
def OptionHidden (conn : Connection) (kind : QueryKind) (row : List Str)
    (types : Nat → Option Int) : Prop :=
  (∀ table column, kind ≠ .columnMetadata table column) ∨
    AllUnaffected (conn.mDataSource.bool .treatDecimalAsString) ColumnMetadataQuery.columns row
      types

/-- **`IgnoreMetadataType` shows in `SQLColumns` alone**, and there in exactly the values that are
asked for as neither text nor binary data, unless the value is empty and its type has a worker. -/
theorem ignoreMetadataType_hidden_iff {conn : Connection} {kind : QueryKind} {on off : ResultSet}
    (hbulk : kind.resultSetType = some .bulk)
    (hon : Query.prepareResultSet (conn.ignoring true) kind = .ok (.ok on))
    (hoff : Query.prepareResultSet (conn.ignoring false) kind = .ok (.ok off)) (row : List Str)
    (types : Nat → Option Int) :
    (SameFetch on off row types ↔ OptionHidden conn kind row types) ∧
      (SameGetData on off row types ↔ OptionHidden conn kind row types) := by
  by_cases hkind : ∃ table column, kind = .columnMetadata table column
  · obtain ⟨table, column, rfl⟩ := hkind
    obtain rfl := Except.ok.inj (Except.ok.inj hon)
    obtain rfl := Except.ok.inj (Except.ok.inj hoff)
    have hhidden : OptionHidden conn (.columnMetadata table column) row types ↔
        AllUnaffected (conn.mDataSource.bool .treatDecimalAsString) ColumnMetadataQuery.columns row
          types := or_iff_right fun h => h table column rfl
    rw [hhidden]
    exact ⟨sameFetch_iff allFaux_columns, sameGetData_iff allFaux_columns⟩
  · have hkind' : ∀ table column, kind ≠ .columnMetadata table column :=
      fun table column h => hkind ⟨table, column, h⟩
    rw [Query.prepareResultSet_ignoring hbulk hkind', hoff] at hon
    obtain rfl := Except.ok.inj (Except.ok.inj hon)
    have hhidden : OptionHidden conn kind row types := .inl hkind'
    exact ⟨iff_of_true (fun _ _ _ _ _ _ _ => rfl) hhidden,
      iff_of_true (fun _ _ _ _ _ _ _ _ => rfl) hhidden⟩

/-- A row of `SQLColumns` for a character column of ten characters. -/
def characterColumnRow : List Str :=
  [[], [], "data:Property:RES".toList, "City".toList, "12".toList, "CHARACTER".toList,
    "10".toList, "10".toList, "0".toList, [], "1".toList, "City".toList, [], "12".toList, [], [],
    "1".toList, "YES".toList]

/-- The fifth column is asked for with its default type. -/
def dataTypeOnly (i : Nat) : Option Int := if i = 4 then some sqlCDefault else none

theorem ignoreMetadataType_hidden_characterColumn :
    (SameFetch (bulkResultSet .charOnly ColumnMetadataQuery.columns)
        (bulkResultSet (.native false) ColumnMetadataQuery.columns) characterColumnRow
        dataTypeOnly ↔
      OptionHidden idleContext.conn (.columnMetadata [] []) characterColumnRow dataTypeOnly) ∧
    (SameGetData (bulkResultSet .charOnly ColumnMetadataQuery.columns)
        (bulkResultSet (.native false) ColumnMetadataQuery.columns) characterColumnRow
        dataTypeOnly ↔
      OptionHidden idleContext.conn (.columnMetadata [] []) characterColumnRow dataTypeOnly) :=
  ignoreMetadataType_hidden_iff rfl rfl rfl characterColumnRow dataTypeOnly

/-- `DATA_TYPE`, a `SMALLINT`, is delivered as text when the option is on. -/
theorem not_sameFetch_dataType :
    Query.prepareResultSet (idleContext.conn.ignoring true) (.columnMetadata [] []) =
        .ok (.ok (bulkResultSet .charOnly ColumnMetadataQuery.columns)) ∧
      Query.prepareResultSet (idleContext.conn.ignoring false) (.columnMetadata [] []) =
        .ok (.ok (bulkResultSet (.native false) ColumnMetadataQuery.columns)) ∧
      ¬ SameFetch (bulkResultSet .charOnly ColumnMetadataQuery.columns)
        (bulkResultSet (.native false) ColumnMetadataQuery.columns) characterColumnRow
        dataTypeOnly := by
  refine ⟨rfl, rfl, ?_⟩
  have hcol : ColumnMetadataQuery.columns[4]? = some (.faux "DATA_TYPE" sqlSmallint) := rfl
  have hdata : characterColumnRow[4]? = some "12".toList := rfl
  exact not_sameFetch_of_text allFaux_columns hcol rfl hdata (by decide) (by decide)

end RetsSTMT

end EzRets
