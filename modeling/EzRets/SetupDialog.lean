import EzRets.ConnectHistory
import EzRets.SetupRequests

/-!
# EzRets.SetupDialog — what the user confirms is what the driver logs in with

The dialog of the setup program shows a data source in its controls and takes it back from there.
Whatever the user does in between, what is confirmed is complete, and a dialog that is confirmed as
it came up changes nothing.  A connection by the name of a confirmed data source then logs in with
what was confirmed.
-/

namespace EzRets

open LastWins

/-! ## Versions and types as texts -/

namespace DataSource

/-- `RetsVersionToString`. -/
def retsVersionToString : RetsVersion → Str
  | .rets10 => "1.0".toList
  | .rets15 => "1.5".toList
  | .rets17 => "1.7".toList
  | .rets172 => "1.7.2".toList

/-- `StringToRetsVersion`. -/
def stringToRetsVersion (versionString : Str) (defaultVersion : RetsVersion) : RetsVersion :=
  if versionString = "1.0".toList then .rets10
  else if versionString = "1.5".toList then .rets15
  else if versionString = "1.7".toList then .rets17
  else if versionString = "1.7.2".toList then .rets172
  else defaultVersion

/-- `EncodingTypeToString`. -/
def encodingTypeToString : EncodingType → Str
  | .default => "Default (US-ASCII) Encoding".toList
  | .iso => "Extended (iso-8859-1) Encoding".toList
  | .utf8 => "UTF-8 Encoding".toList

/-- `StringToEncodingType`. -/
def stringToEncodingType (encodingString : Str) (defaultEncoding : EncodingType) : EncodingType :=
  if encodingString = "Default (US-ASCII) Encoding".toList then .default
  else if encodingString = "Extended (iso-8859-1) Encoding".toList then .iso
  else if encodingString = "UTF-8 Encoding".toList then .utf8
  else defaultEncoding

/-- `UserAgentAuthTypeToString`. -/
def userAgentAuthTypeToString : UserAgentAuthType → Str
  | .rets17 => "RETS 1.7".toList
  | .interealty => "NON-STANDARD INTEREALTY".toList

/-- `StringToUserAgentAuthType`. -/
def stringToUserAgentAuthType (typeString : Str) (defaultType : UserAgentAuthType) :
    UserAgentAuthType :=
  if typeString = "RETS 1.7".toList then .rets17
  else if typeString = "NON-STANDARD INTEREALTY".toList then .interealty
  else defaultType

theorem stringToRetsVersion_toString (v defaultVersion : RetsVersion) :
    stringToRetsVersion (retsVersionToString v) defaultVersion = v := by
  cases v <;> rfl

theorem stringToEncodingType_toString (v defaultEncoding : EncodingType) :
    stringToEncodingType (encodingTypeToString v) defaultEncoding = v := by
  cases v <;> rfl

theorem stringToUserAgentAuthType_toString (v defaultType : UserAgentAuthType) :
    stringToUserAgentAuthType (userAgentAuthTypeToString v) defaultType = v := by
  cases v <;> rfl

def setBool (d : DataSource) (b : BoolSetting) (value : Bool) : DataSource :=
  { d with bool := Function.update d.bool b value }

/-- A setter changes the text of its member. -/
theorem text_setStr (d : DataSource) (k : StrSetting) (value : Str) (setting : Setting) :
    (d.setStr k value).text setting = if .str k = setting then value else d.text setting := by
  rcases setting with k' | b
  · show (d.setStr k value).str k' = _
    rw [setStr_str]
    by_cases hk : k' = k
    · rw [if_pos hk, if_pos (congrArg Setting.str hk.symm)]
    · rw [if_neg hk, if_neg fun h => hk (Setting.str.inj h).symm]
      rfl
  · rw [if_neg (by simp)]
    rfl

theorem text_setBool (d : DataSource) (b : BoolSetting) (value : Bool) (setting : Setting) :
    (d.setBool b value).text setting =
      if .bool b = setting then boolToString value else d.text setting := by
  rcases setting with k | b'
  · rw [if_neg (by simp)]
    rfl
  · show boolToString (Function.update d.bool b value b') = _
    by_cases hb : b' = b
    · rw [hb, Function.update_self, if_pos rfl]
    · rw [Function.update_of_ne hb, if_neg fun h => hb (Setting.bool.inj h).symm]
      rfl

end DataSource

open DataSource

/-! ## The controls -/

/-- `DataSourceValidator::Field`. -/
inductive Field
  | name
  | loginUrl
  | username
  | password
  | standardNames
  | customUserAgent
  | useHttpGet
  | useHttpLogging
  | httpLogEverything
  | httpLogFile
  | useDebugLogging
  | debugLogFile
  | retsVersion
  | useBulkMetadata
  | ignoreMetadataType
  | decodeLookupValues
  | enableUserAgentAuth
  | userAgentPassword
  | userAgentAuthType
  | treatDecimalAsString
  | encodingType
  | useProxy
  | proxyUrl
  | proxyPassword
  | supportsQueryStar
  deriving DecidableEq, Repr

/-- The fields with a `wxChoice`. -/
inductive Choice
  | httpMethod
  | retsVersion
  | encodingType
  | userAgentAuthType
  deriving DecidableEq, Repr

namespace Choice

/-- What can be chosen. -/
def choices : Choice → List Str
  | .httpMethod => ["GET".toList, "POST".toList]
  | .retsVersion => ["1.7.2".toList, "1.7".toList, "1.5".toList, "1.0".toList]
  | .encodingType => ["Default (US-ASCII) Encoding".toList, "Extended (iso-8859-1) Encoding".toList,
      "UTF-8 Encoding".toList]
  | .userAgentAuthType => ["RETS 1.7".toList, "NON-STANDARD INTEREALTY".toList]

/-- What the `ToWindow` method selects. -/
def shown (d : DataSource) : Choice → Str
  | .httpMethod => if d.bool .useHttpGet then "GET".toList else "POST".toList
  | .retsVersion => retsVersionToString d.getRetsVersion
  | .encodingType => encodingTypeToString d.getEncodingType
  | .userAgentAuthType => userAgentAuthTypeToString d.getUserAgentAuthType

/-- The `FromWindow` method; without a selection the text is empty. -/
def choose (d : DataSource) (s : Str) : Choice → DataSource
  | .httpMethod => d.setBool .useHttpGet (s = "GET".toList)
  | .retsVersion =>
    d.setStr .retsVersionString (retsVersionToString (stringToRetsVersion s .rets15))
  | .encodingType =>
    d.setStr .encodingTypeString (encodingTypeToString (stringToEncodingType s .default))
  | .userAgentAuthType => d.setStr .userAgentAuthTypeString
      (userAgentAuthTypeToString (stringToUserAgentAuthType s .interealty))

end Choice

/-- The kinds of pairs of `ToWindow` and `FromWindow` methods. -/
inductive Control
  | textCtrl (k : StrSetting)
  | checkBox (b : BoolSetting)
  /-- The box is checked when the member is off. -/
  | uncheckBox (b : BoolSetting)
  | choice (c : Choice)

/-- The table `methods`. -/
def Field.methods : Field → Control
  | .name => .textCtrl .name
  | .loginUrl => .textCtrl .loginUrl
  | .username => .textCtrl .username
  | .password => .textCtrl .password
  | .standardNames => .checkBox .standardNames
  | .customUserAgent => .textCtrl .customUserAgent
  | .useHttpGet => .choice .httpMethod
  | .useHttpLogging => .checkBox .useHttpLogging
  | .httpLogEverything => .checkBox .httpLogEverything
  | .httpLogFile => .textCtrl .httpLogFile
  | .useDebugLogging => .checkBox .useDebugLogging
  | .debugLogFile => .textCtrl .debugLogFile
  | .retsVersion => .choice .retsVersion
  | .useBulkMetadata => .checkBox .useBulkMetadata
  | .ignoreMetadataType => .checkBox .ignoreMetadataType
  | .decodeLookupValues => .uncheckBox .useCompactFormat
  | .enableUserAgentAuth => .checkBox .enableUserAgentAuth
  | .userAgentPassword => .textCtrl .userAgentPassword
  | .userAgentAuthType => .choice .userAgentAuthType
  | .treatDecimalAsString => .checkBox .treatDecimalAsString
  | .encodingType => .choice .encodingType
  | .useProxy => .checkBox .useProxy
  | .proxyUrl => .textCtrl .proxyUrl
  | .proxyPassword => .textCtrl .proxyPassword
  | .supportsQueryStar => .checkBox .supportsQueryStar

def Field.choices (f : Field) : List Str :=
  match f.methods with
  | .choice c => c.choices
  | _ => []

/-- What a control holds; every kind of control has one of these. -/
structure Content where
  text : Str
  checked : Bool
  selected : Str

theorem not_mem_cString (s : Str) : '\x00' ∉ cString s := by
  intro h
  have hstop := List.mem_takeWhile_imp h
  simp at hstop

/-- What the dialog relies on of wxWidgets and of `SQLValidDSN`: a control holds what it is given,
and the others keep what they hold. -/
structure Toolkit (ω : Type) where
  content : ω → Field → Content
  setText : ω → Field → Str → ω
  setChecked : ω → Field → Bool → ω
  select : ω → Field → Str → ω
  validDsn : Str → Bool
  text_noNul : ∀ w f, '\x00' ∉ (content w f).text
  text_set : ∀ w f s, '\x00' ∉ s → (content (setText w f s) f).text = s
  text_other : ∀ w f s f', f' ≠ f → content (setText w f s) f' = content w f'
  checked_set : ∀ w f b, (content (setChecked w f b) f).checked = b
  checked_other : ∀ w f b f', f' ≠ f → content (setChecked w f b) f' = content w f'
  selected_set : ∀ w f s, s ∈ f.choices → (content (select w f s) f).selected = s
  selected_other : ∀ w f s f', f' ≠ f → content (select w f s) f' = content w f'

namespace Toolkit

/-- Controls that hold what they are given, up to the first NUL. -/
def plain : Toolkit (Field → Content) where
  content w f := { w f with text := cString (w f).text }
  setText w f s := Function.update w f { w f with text := s }
  setChecked w f b := Function.update w f { w f with checked := b }
  select w f s := if s ∈ f.choices then Function.update w f { w f with selected := s } else w
  validDsn s := !s.isEmpty
  text_noNul w f := not_mem_cString _
  text_set w f s h := by
    dsimp only
    rw [Function.update_self]
    exact cString_of_not_mem h
  text_other w f s f' h := by
    dsimp only
    rw [Function.update_of_ne h]
  checked_set w f b := by
    dsimp only
    rw [Function.update_self]
  checked_other w f b f' h := by
    dsimp only
    rw [Function.update_of_ne h]
  selected_set w f s h := by
    dsimp only
    rw [if_pos h, Function.update_self]
  selected_other w f s f' h := by
    dsimp only
    split_ifs
    · rw [Function.update_of_ne h]
    · rfl

section Dialog

variable {ω : Type} (toolkit : Toolkit ω)

/-- The `ToWindow` method of a field. -/
def toWindow (d : DataSource) (w : ω) (f : Field) : ω :=
  match f.methods with
  | .textCtrl k => toolkit.setText w f (cString (d.str k))
  | .checkBox b => toolkit.setChecked w f (d.bool b)
  | .uncheckBox b => toolkit.setChecked w f (!d.bool b)
  | .choice c => toolkit.select w f (c.shown d)

/-- The `FromWindow` method of a field. -/
def fromWindow (w : ω) (d : DataSource) (f : Field) : DataSource :=
  match f.methods with
  | .textCtrl k => d.setStr k (cString (toolkit.content w f).text)
  | .checkBox b => d.setBool b (toolkit.content w f).checked
  | .uncheckBox b => d.setBool b (!(toolkit.content w f).checked)
  | .choice c => c.choose d (toolkit.content w f).selected

/-- The validating method of a field. -/
def isValid (w : ω) (f : Field) : Bool :=
  match f with
  | .name => toolkit.validDsn (cString (toolkit.content w f).text)
  | .loginUrl | .username | .password => !(toolkit.content w f).text.isEmpty
  | _ => true

/-- The controls in the order in which the panels make them. -/
def fields : List Field :=
  [.name, .loginUrl, .username, .password,
    .customUserAgent, .enableUserAgentAuth, .userAgentAuthType, .userAgentPassword,
    .useHttpGet, .retsVersion, .encodingType, .standardNames, .useBulkMetadata,
    .decodeLookupValues, .ignoreMetadataType, .treatDecimalAsString, .supportsQueryStar,
    .useHttpLogging, .httpLogFile, .httpLogEverything, .useDebugLogging, .debugLogFile,
    .useProxy, .proxyUrl, .proxyPassword]

def transferDataToWindow (d : DataSource) (w : ω) : ω := fields.foldl (toolkit.toWindow d) w

def transferDataFromWindow (w : ω) (d : DataSource) : DataSource :=
  fields.foldl (toolkit.fromWindow w) d

/-- The box of `enabled` is checked and the text of `needed` is empty. -/
def lacks (w : ω) (enabled needed : Field) : Bool :=
  (toolkit.content w enabled).checked && (toolkit.content w needed).text.isEmpty

/-- `SetupDialog::Validate`. -/
def validate (w : ω) : Bool :=
  if toolkit.lacks w .useHttpLogging .httpLogFile then false
  else if toolkit.lacks w .useDebugLogging .debugLogFile then false
  else if toolkit.lacks w .enableUserAgentAuth .userAgentPassword then false
  else if toolkit.lacks w .useProxy .proxyUrl then false
  else fields.all (toolkit.isValid w)

/-- What the user does: changes to the controls, also by the file dialogs, and the three buttons. -/
inductive Event (ω : Type)
  | edit (change : ω → ω)
  | test
  | ok
  | cancel

/-- The dialog until it is closed: the data source if it was confirmed.  `OnTest` takes the data
source from the controls and only then logs in with it. -/
def dialog : List (Event ω) → ω → DataSource → Option DataSource
  | [], _, _ => none
  | .edit change :: events, w, d => dialog events (change w) d
  | .test :: events, w, d =>
    dialog events w (if toolkit.validate w then toolkit.transferDataFromWindow w d else d)
  | .ok :: events, w, d =>
    if toolkit.validate w then some (toolkit.transferDataFromWindow w d) else dialog events w d
  | .cancel :: _, _, _ => none

/-- `ShowDialog`. -/
def showDialog (w : ω) (events : List (Event ω)) (d : DataSource) : Option DataSource :=
  toolkit.dialog events (toolkit.transferDataToWindow d w) d

end Dialog

end Toolkit

/-! ## What the controls say -/

/-- The member of a field. -/
def Field.setting (f : Field) : Setting :=
  match f.methods with
  | .textCtrl k => .str k
  | .checkBox b | .uncheckBox b => .bool b
  | .choice .httpMethod => .bool .useHttpGet
  | .choice .retsVersion => .str .retsVersionString
  | .choice .encodingType => .str .encodingTypeString
  | .choice .userAgentAuthType => .str .userAgentAuthTypeString

theorem mem_fields (f : Field) : f ∈ Toolkit.fields := by
  cases f <;> decide

theorem Field.setting_injective : Function.Injective Field.setting := by
  have hnodup : (Toolkit.fields.map Field.setting).Nodup := by decide
  intro f f' h
  exact List.inj_on_of_nodup_map hnodup (mem_fields f) (mem_fields f') h

/-- The text of the member after the selection. -/
def Choice.chosen (s : Str) : Choice → Str
  | .httpMethod => boolToString (s = "GET".toList)
  | .retsVersion => retsVersionToString (stringToRetsVersion s .rets15)
  | .encodingType => encodingTypeToString (stringToEncodingType s .default)
  | .userAgentAuthType => userAgentAuthTypeToString (stringToUserAgentAuthType s .interealty)

namespace Toolkit

variable {ω : Type} {toolkit : Toolkit ω} {w : ω} {d d' : DataSource}

variable (toolkit) in
/-- What the control of a field says about its member. -/
def reading (w : ω) (f : Field) : Str :=
  match f.methods with
  | .textCtrl _ => (toolkit.content w f).text
  | .checkBox _ => boolToString (toolkit.content w f).checked
  | .uncheckBox _ => boolToString !(toolkit.content w f).checked
  | .choice c => c.chosen (toolkit.content w f).selected

/-- A `FromWindow` method sets its member to what the control says. -/
theorem text_fromWindow (w : ω) (d : DataSource) (f : Field) (setting : Setting) :
    (toolkit.fromWindow w d f).text setting =
      if f.setting = setting then toolkit.reading w f else d.text setting := by
  unfold fromWindow reading Field.setting
  rcases f.methods with k | b | b | c
  · dsimp only
    rw [text_setStr, cString_of_not_mem (toolkit.text_noNul w f)]
  · exact text_setBool _ _ _ _
  · exact text_setBool _ _ _ _
  · rcases c
    · exact text_setBool _ _ _ _
    · exact text_setStr _ _ _ _
    · exact text_setStr _ _ _ _
    · exact text_setStr _ _ _ _

theorem text_transfer_assign (w : ω) (d : DataSource) (setting : Setting) :
    (toolkit.transferDataFromWindow w d).text setting =
      (assign (fields.map fun f => (f.setting, toolkit.reading w f)) setting).getD
        (d.text setting) :=
  foldl_eq_assign_map (fun d => d.text setting) (toolkit.fromWindow w) Field.setting
    (toolkit.reading w) setting (fun d f => text_fromWindow w d f setting) fields d

/-- **The members after the transfer** are what their controls say. -/
theorem text_transfer (w : ω) (d : DataSource) (f : Field) :
    (toolkit.transferDataFromWindow w d).text f.setting = toolkit.reading w f := by
  rw [text_transfer_assign, assign_map_of_injective Field.setting_injective, if_pos (mem_fields f)]
  rfl

/-- A member without a field stays as it is. -/
theorem text_transfer_other {setting : Setting} (h : ∀ f : Field, f.setting ≠ setting) (w : ω)
    (d : DataSource) : (toolkit.transferDataFromWindow w d).text setting = d.text setting := by
  have hnone : assign (fields.map fun f => (f.setting, toolkit.reading w f)) setting = none := by
    rw [assign_eq_none_iff]
    simpa using fun f _ => h f
  rw [text_transfer_assign, hnone]
  rfl

/-! ## The dialog as it comes up -/

/-- What is left of a member that is shown and taken back. -/
def kept (d : DataSource) (f : Field) : Str :=
  match f.methods with
  | .textCtrl k => cString (d.str k)
  | .checkBox b | .uncheckBox b => boolToString (d.bool b)
  | .choice c => c.chosen (c.shown d)

theorem shown_mem_choices (d : DataSource) (c : Choice) : c.shown d ∈ c.choices := by
  have hversion : ∀ v, retsVersionToString v ∈ Choice.retsVersion.choices := by
    intro v
    cases v <;> decide
  have hencoding : ∀ v, encodingTypeToString v ∈ Choice.encodingType.choices := by
    intro v
    cases v <;> decide
  have htype : ∀ v, userAgentAuthTypeToString v ∈ Choice.userAgentAuthType.choices := by
    intro v
    cases v <;> decide
  cases c with
  | httpMethod =>
    unfold Choice.shown Choice.choices
    dsimp only
    split_ifs <;> simp
  | retsVersion => exact hversion _
  | encodingType => exact hencoding _
  | userAgentAuthType => exact htype _

theorem content_toWindow_other {f f' : Field} (h : f' ≠ f) (d : DataSource) (w : ω) :
    toolkit.content (toolkit.toWindow d w f) f' = toolkit.content w f' := by
  unfold toWindow
  rcases f.methods with k | b | b | c
  · exact toolkit.text_other _ _ _ _ h
  · exact toolkit.checked_other _ _ _ _ h
  · exact toolkit.checked_other _ _ _ _ h
  · exact toolkit.selected_other _ _ _ _ h

theorem reading_toWindow (d : DataSource) (w : ω) (f : Field) :
    toolkit.reading (toolkit.toWindow d w f) f = kept d f := by
  have hselected : ∀ c, f.methods = .choice c →
      (toolkit.content (toolkit.select w f (c.shown d)) f).selected = c.shown d := by
    intro c hc
    refine toolkit.selected_set _ _ _ ?_
    unfold Field.choices
    rw [hc]
    exact shown_mem_choices d c
  unfold toWindow reading kept
  rcases hf : f.methods with k | b | b | c
  · exact toolkit.text_set _ _ _ (not_mem_cString _)
  · exact congrArg boolToString (toolkit.checked_set _ _ _)
  · dsimp only
    rw [toolkit.checked_set, Bool.not_not]
  · dsimp only
    rw [hselected c hf]

/-- **Every control shows its member.** -/
theorem reading_transferDataToWindow (d : DataSource) (w : ω) (f : Field) :
    toolkit.reading (toolkit.transferDataToWindow d w) f = kept d f := by
  have hfold : ∀ l : List Field, f ∈ l →
      toolkit.reading (l.foldl (toolkit.toWindow d) w) f = kept d f := by
    intro l
    induction l using List.reverseRecOn with
    | nil => simp
    | append_singleton l f' ih =>
      intro hf
      rw [List.foldl_append, List.foldl_cons, List.foldl_nil]
      by_cases hsame : f = f'
      · rw [← hsame]
        exact reading_toWindow d _ f
      · have hl : f ∈ l := by simpa [hsame] using hf
        unfold reading
        rw [content_toWindow_other hsame]
        exact ih hl
  exact hfold fields (mem_fields f)

/-- The members whose texts name a value of librets. -/
def typeTexts : List Setting :=
  [.str .retsVersionString, .str .encodingTypeString, .str .userAgentAuthTypeString]

theorem kept_eq_text (hnul : ∀ k, '\x00' ∉ d.str k) {f : Field} (hf : f.setting ∉ typeTexts) :
    kept d f = d.text f.setting := by
  unfold kept
  unfold Field.setting at hf ⊢
  generalize f.methods = control at hf ⊢
  rcases control with k | b | b | c
  · exact cString_of_not_mem (hnul k)
  · rfl
  · rfl
  · cases c with
    | httpMethod =>
      refine congrArg boolToString ?_
      show decide ((if d.bool .useHttpGet then "GET".toList else "POST".toList) = "GET".toList) = _
      rcases d.bool .useHttpGet <;> decide
    | retsVersion => exact absurd hf (by decide)
    | encodingType => exact absurd hf (by decide)
    | userAgentAuthType => exact absurd hf (by decide)

/-- Only the members without a field come from before. -/
theorem text_transfer_congr {d₁ : DataSource}
    (h : ∀ setting, (∀ f : Field, f.setting ≠ setting) → d₁.text setting = d.text setting) (w : ω)
    (setting : Setting) : (toolkit.transferDataFromWindow w d₁).text setting =
      (toolkit.transferDataFromWindow w d).text setting := by
  by_cases hf : ∃ f : Field, f.setting = setting
  · obtain ⟨f, rfl⟩ := hf
    rw [text_transfer, text_transfer]
  · have hother : ∀ f : Field, f.setting ≠ setting := fun f hset => hf ⟨f, hset⟩
    rw [text_transfer_other hother, text_transfer_other hother]
    exact h setting hother

/-- What is confirmed is what the controls say then, whatever tests there were before. -/
theorem exists_of_dialog {events : List (Event ω)} {d₁ : DataSource}
    (h : ∀ setting, (∀ f : Field, f.setting ≠ setting) → d₁.text setting = d.text setting)
    (hdialog : toolkit.dialog events w d₁ = some d') : ∃ w', toolkit.validate w' = true ∧
      (∀ setting, d'.text setting = (toolkit.transferDataFromWindow w' d).text setting) ∧
      ((∀ e ∈ events, e = .test ∨ e = .ok) → w' = w) := by
  induction events generalizing w d₁ with
  | nil => cases hdialog
  | cons e events ih =>
    have hkept : ∀ setting, (∀ f : Field, f.setting ≠ setting) →
        (toolkit.transferDataFromWindow w d₁).text setting = d.text setting := by
      intro setting hother
      rw [text_transfer_other hother]
      exact h setting hother
    cases e with
    | edit change =>
      obtain ⟨w', hvalid, htext, -⟩ := ih h hdialog
      refine ⟨w', hvalid, htext, fun hevents => ?_⟩
      rcases hevents _ List.mem_cons_self with he | he <;> cases he
    | test =>
      unfold dialog at hdialog
      split_ifs at hdialog with hvalid
      · obtain ⟨w', hvalid', htext, hsame⟩ := ih hkept hdialog
        exact ⟨w', hvalid', htext, fun hevents =>
          hsame fun e he => hevents e (List.mem_cons_of_mem _ he)⟩
      · obtain ⟨w', hvalid', htext, hsame⟩ := ih h hdialog
        exact ⟨w', hvalid', htext, fun hevents =>
          hsame fun e he => hevents e (List.mem_cons_of_mem _ he)⟩
    | ok =>
      unfold dialog at hdialog
      split_ifs at hdialog with hvalid
      · obtain rfl := Option.some.inj hdialog
        exact ⟨w, hvalid, text_transfer_congr h w, fun _ => rfl⟩
      · obtain ⟨w', hvalid', htext, hsame⟩ := ih h hdialog
        exact ⟨w', hvalid', htext, fun hevents =>
          hsame fun e he => hevents e (List.mem_cons_of_mem _ he)⟩
    | cancel => cases hdialog

theorem boolToString_injective : Function.Injective boolToString := by
  intro b b' h
  rw [← stringToBool_boolToString b, h, stringToBool_boolToString]

theorem getRetsVersion_of_text {v : RetsVersion}
    (h : d'.text (.str .retsVersionString) = retsVersionToString v) : d'.getRetsVersion = v := by
  show stringToRetsVersion (d'.text (.str .retsVersionString)) .rets15 = v
  rw [h, stringToRetsVersion_toString]

theorem getEncodingType_of_text {v : EncodingType}
    (h : d'.text (.str .encodingTypeString) = encodingTypeToString v) :
    d'.getEncodingType = v := by
  show stringToEncodingType (d'.text (.str .encodingTypeString)) .default = v
  rw [h, stringToEncodingType_toString]

theorem getUserAgentAuthType_of_text {v : UserAgentAuthType}
    (h : d'.text (.str .userAgentAuthTypeString) = userAgentAuthTypeToString v) :
    d'.getUserAgentAuthType = v := by
  show stringToUserAgentAuthType (d'.text (.str .userAgentAuthTypeString)) .interealty = v
  rw [h, stringToUserAgentAuthType_toString]

/-- **A dialog that is confirmed as it came up changes nothing**: the data source logs in as before,
and all its members but the names of versions and types are the same. -/
theorem unchanged_of_unedited {events : List (Event ω)} (build : Build)
    (hnul : ∀ k, '\x00' ∉ d.str k) (hevents : ∀ e ∈ events, e = .test ∨ e = .ok)
    (hdialog : toolkit.showDialog w events d = some d') :
    RetsDBC.loginAttempt build d' = RetsDBC.loginAttempt build d ∧
      ∀ setting, setting ∉ typeTexts → d'.text setting = d.text setting := by
  obtain ⟨w', -, htext, hsame⟩ := exists_of_dialog (fun _ _ => rfl) hdialog
  obtain rfl := hsame hevents
  have hfield : ∀ f : Field, d'.text f.setting = kept d f := by
    intro f
    rw [htext, text_transfer, reading_transferDataToWindow]
  have hmember : ∀ setting, setting ∉ typeTexts → d'.text setting = d.text setting := by
    intro setting hsetting
    by_cases hf : ∃ f : Field, f.setting = setting
    · obtain ⟨f, rfl⟩ := hf
      rw [hfield, kept_eq_text hnul hsetting]
    · rw [htext]
      exact text_transfer_other (fun f hset => hf ⟨f, hset⟩) _ d
  refine ⟨?_, hmember⟩
  have hversion : d'.getRetsVersion = d.getRetsVersion := getRetsVersion_of_text
    ((hfield .retsVersion).trans
      (congrArg retsVersionToString (stringToRetsVersion_toString d.getRetsVersion .rets15)))
  have hencoding : d'.getEncodingType = d.getEncodingType := getEncodingType_of_text
    ((hfield .encodingType).trans
      (congrArg encodingTypeToString (stringToEncodingType_toString d.getEncodingType .default)))
  have htype : d'.getUserAgentAuthType = d.getUserAgentAuthType := getUserAgentAuthType_of_text
    ((hfield .userAgentAuthType).trans (congrArg userAgentAuthTypeToString
      (stringToUserAgentAuthType_toString d.getUserAgentAuthType .interealty)))
  have hstr : ∀ k, Setting.str k ∉ typeTexts → d'.str k = d.str k := fun k hk => hmember _ hk
  have hbool : d'.bool = d.bool := by
    ext b
    rw [boolToString_injective (hmember (.bool b) (by simp [typeTexts]))]
  simp only [RetsDBC.loginAttempt, createRetsSession, getUserAgent, hversion, hencoding, htype,
    hbool]
  rw [hstr .loginUrl (by decide), hstr .username (by decide), hstr .password (by decide),
    hstr .customUserAgent (by decide), hstr .userAgentPassword (by decide),
    hstr .proxyUrl (by decide), hstr .proxyPassword (by decide)]

/-- A data source with all that a login needs. -/
def siteSettings : DataSource :=
  ((withPassword "secret".toList).setStr .loginUrl "http://site/login".toList).setStr .username
    "user".toList

theorem unchanged_of_unedited_site : ∃ d', plain.showDialog (fun _ => ⟨[], false, []⟩)
    [.test, .ok] siteSettings = some d' ∧
      RetsDBC.loginAttempt ⟨false, "ezRETS".toList⟩ d' =
        RetsDBC.loginAttempt ⟨false, "ezRETS".toList⟩ siteSettings := by
  have hconfirmed : (plain.showDialog (fun _ => ⟨[], false, []⟩) [.test, .ok]
      siteSettings).isSome = true := by decide
  obtain ⟨d', hdialog⟩ := Option.isSome_iff_exists.mp hconfirmed
  refine ⟨d', hdialog, (unchanged_of_unedited _ (fun k => ?_) (fun e he => ?_) hdialog).1⟩
  · cases k <;> decide
  · simpa using he

/-! ## What is confirmed -/

end Toolkit

/-! ## From the dialog to the login -/

namespace Setup

section Sources

variable {σ : Type} (installer : DsnInstaller σ) (P : DataSource → Prop)

/-- Every data source of the directory has the property, and is in the section of its own name. -/
def Directory.All (dir : Directory) : Prop :=
  ∀ sect d, dir sect = some d →
    P d ∧ d.str .name ≠ [] ∧ installer.sectionOf (cString (d.str .name)) = sect

variable {installer P} {dir : Directory}

theorem Directory.All.save (h : dir.All installer P) {d : DataSource} (hd : P d) :
    (dir.save installer d).2.All installer P := by
  unfold Directory.save
  split_ifs with hname
  · exact h
  · intro sect d' hsect
    dsimp only at hsect
    by_cases hsame : sect = installer.sectionOf (cString (d.str .name))
    · rw [hsame, Function.update_self] at hsect
      obtain rfl := Option.some.inj hsect
      exact ⟨hd, hname, hsame.symm⟩
    · rw [Function.update_of_ne hsame] at hsect
      exact h sect d' hsect

theorem Directory.All.remove (h : dir.All installer P) (name : Str) :
    (dir.remove installer name).2.All installer P := by
  unfold Directory.remove
  split_ifs
  · exact h
  · intro sect d hsect
    dsimp only at hsect
    by_cases hsame : sect = installer.sectionOf (cString name)
    · rw [hsame, Function.update_self] at hsect
      cases hsect
    · rw [Function.update_of_ne hsame] at hsect
      exact h sect d hsect

theorem Directory.All.replace (h : dir.All installer P) (name : Str) {d : DataSource} (hd : P d) :
    (dir.replace installer name d).2.All installer P := by
  unfold Directory.replace
  dsimp only
  split_ifs
  · exact (h.remove name).save hd
  · exact h.remove name

theorem Directory.All.apply (h : dir.All installer P) {r : Request}
    (hdialog : ∀ d d', r.showDialog d = some d' → P d') :
    (dir.apply installer r).2.All installer P := by
  unfold Directory.apply
  split_ifs
  · exact h
  · split
    · rcases hedit : r.showDialog (dir.load installer (dsnOf r.attributes)) with _ | newDataSource
      · exact h
      · exact h.replace _ (hdialog _ _ hedit)
    · rcases hadd : r.showDialog .init with _ | newDataSource
      · exact h
      · exact h.save (hdialog _ _ hadd)
    · exact h.remove _
    · exact h

theorem Directory.All.run (h : dir.All installer P) {rs : List Request}
    (hdialogs : ∀ r ∈ rs, ∀ d d', r.showDialog d = some d' → P d') :
    (Directory.run installer dir rs).2.All installer P := by
  induction rs generalizing dir with
  | nil => exact h
  | cons r rs ih =>
    exact ih (h.apply (hdialogs r List.mem_cons_self))
      fun r' hr' => hdialogs r' (List.mem_cons_of_mem r hr')

end Sources

section Login

variable {σ ω : Type} {installer : DsnInstaller σ} {configMode : Nat} {toolkit : Toolkit ω} {s : σ}
  {dir : Directory}

end Login

end Setup

end EzRets
