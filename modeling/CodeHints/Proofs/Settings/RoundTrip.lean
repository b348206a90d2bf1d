import CodeHints.Proofs.Json.Writing
import CodeHints.Proofs.Settings.Fields
import CodeHints.Settings.Writer

/-!
# Written settings read back

Settings that come from a document are written as a document that gives the same settings again
(`Settings.parse_text_of_parse`). The document that is written need not be the one that was read: a
mode can be given by a text or a truth value, a level has two spellings and an object form, and no
pattern is null or the empty text. What is written is one of the forms that are read, and reading it
undoes the choice.

Not all settings read back. A timeout of more than 64 bits has no document, an empty pattern is read
as none, and the visibilities `default` and `jedi` take their texts away from `mixed`. No document
leads to such values (`Settings.Canonical`, `Settings.canonical_of_parse`).
-/

namespace CodeHints

open Json (Fault Reader Shape Written StringPart Spells IsDocument textOf? partsOf maxWord)
open Json.Reader

/-! ## Values that documents lead to -/

/-- A value that some document gives a setting. -/
def Setting.Canonical : (key : Setting) → key.Value → Prop
  | .completionTimeout => fun n ↦ n ≤ maxWord
  | .triggerPattern => fun pattern? ↦ ∀ p, pattern? = some p → p.text ≠ ""
  | .visibility => fun v ↦ Visibility.ofText v.text = v
  | _ => fun _ ↦ True

theorem word?_le {v : Written} {n : Nat} (h : v.word? = some n) : n ≤ maxWord := by
  unfold Written.word? at h
  split at h
  · split at h
    · next hle => exact Option.some.inj h ▸ hle
    · cases h
  · cases h

theorem ensures_number : Ensures number fun x ↦ ∀ n, x = .natural n → n ≤ maxWord := by
  have hread {negative : Bool} {s t : List Char} {n : Nat}
      (h : (Json.readNumber negative s).toOption = some (.natural n, t)) : n ≤ maxWord := by
    rw [Json.readNumber] at h
    cases htext : Json.readNumberText .endInValue s with
    | error fault =>
      rw [htext] at h
      cases h
    | ok x =>
      rw [htext] at h
      change ((x.1.value negative).bind fun n ↦ .ok (n, x.2)).toOption = _ at h
      have hword := Json.natural?_value x.1 negative
      cases hvalue : x.1.value negative with
      | error fault =>
        rw [hvalue] at h
        cases h
      | ok m =>
        rw [hvalue] at h hword
        cases h
        exact word?_le hword.symm
  rintro s _ t h n rfl
  rw [run?, number.eq_def] at h
  split at h <;> exact hread h

theorem ensures_readWord : Ensures readWord fun n ↦ n ≤ maxWord := by
  refine .last _ fun c ↦ ?_
  split
  · refine ensures_number.bind fun x hx ↦ ?_
    cases x with
    | natural n => exact .pure (hx n rfl)
    | _ => exact .throw _
  · exact .last _ fun _ ↦ .throw _

theorem TriggerPattern.text_of_ofText? {text : String} {p : TriggerPattern}
    (h : ofText? text = some p) : p.text = text := by
  unfold ofText? at h
  split at h
  · exact congrArg TriggerPattern.text (Option.some.inj h).symm
  · cases h

theorem TriggerPattern.ensures_read :
    Ensures TriggerPattern.read fun pattern? ↦ ∀ p, pattern? = some p → p.text ≠ "" := by
  refine .last _ fun text? ↦ ?_
  cases text? with
  | none => exact .pure nofun
  | some text =>
    refine .lift ?_
    rintro _ h p rfl hempty
    rw [ofSetting] at h
    split at h
    · cases h
    · next hne =>
      split at h
      · next q hq =>
        cases h
        exact hne ((text_of_ofText? hq).symm.trans hempty)
      · cases h

theorem Visibility.ofText_text_ofText (text : String) :
    ofText (ofText text).text = ofText text := by
  by_cases hdefault : text = "default"
  · subst hdefault
    rfl
  by_cases hjedi : text = "jedi"
  · subst hjedi
    rfl
  have hmixed : ofText text = .mixed text := by rw [ofText, if_neg hdefault, if_neg hjedi]
  rw [hmixed]
  exact hmixed

theorem Setting.ensures_readValueOf (key : Setting) (depth : Nat) :
    Ensures (Settings.readValueOf key depth) key.Canonical := by
  cases key with
  | completionTimeout => exact ensures_readWord
  | triggerPattern => exact TriggerPattern.ensures_read
  | visibility => exact (Ensures.trivial _).map fun text _ ↦ Visibility.ofText_text_ofText text
  | _ => exact .trivial _

/-! ## What is written for a value -/

theorem text?_string_partsOf (text : String) :
    (Written.string (partsOf text)).text? = some text := Json.textOf?_partsOf text

def writtenTexts (texts : List String) : Written :=
  .array (texts.map fun text ↦ .string (partsOf text))

theorem spells_ofStrings (texts : List String) :
    Spells (Json.ofStrings texts).chars (.value (writtenTexts texts)) :=
  Json.spells_array fun text _ ↦ Json.spells_string text

theorem list?_writtenTexts (texts : List String) :
    (writtenTexts texts).list? Written.text? = some texts := by
  change (texts.map fun text ↦ Written.string (partsOf text)).mapM Written.text? = some texts
  induction texts with
  | nil => rfl
  | cons text texts ih => rw [List.map_cons, List.mapM_cons, ih, text?_string_partsOf]; rfl

def PerPlatform.written {α : Type} (element : α → Written) (v : PerPlatform α) : Written :=
  .object (Platform.all.map fun p ↦ (partsOf p.name, element (v.get p)))

theorem PerPlatform.spells_toJson {α : Type} {value : α → Json} {element : α → Written}
    (h : ∀ a, Spells (value a).chars (.value (element a))) (v : PerPlatform α) :
    Spells (v.toJson value).chars (.value (v.written element)) :=
  Json.spells_object (fun p _ ↦ h (v.get p)) Platform.name

theorem PerPlatform.value?_written {α : Type} (missing : α) {value : Written → Option α}
    {element : α → Written} (h : ∀ a, value (element a) = some a) (v : PerPlatform α) :
    value? missing value (v.written element) = some v :=
  (Shape.record?_object_eq_some_iff _ _).mpr <|
    Shape.describes_map (fun _ ↦ Json.textOf?_partsOf _) fun p ↦ h (v.get p)

def FunctionParams.written : FunctionParams → Written
  | .off => .bool false
  | mode => .string (partsOf mode.name)

theorem FunctionParams.spells_toJson (mode : FunctionParams) :
    Spells mode.toJson.chars (.value mode.written) := by
  cases mode with
  | off => exact .isFalse
  | _ => exact Json.spells_string _

theorem FunctionParams.value?_written (mode : FunctionParams) :
    value? mode.written = some mode := by
  cases mode with
  | off => rfl
  | all => exact congrArg (Option.map ofText) (Json.textOf?_partsOf "all")
  | required => exact congrArg (Option.map ofText) (Json.textOf?_partsOf "required")

theorem TriggerPattern.value?_string {p : TriggerPattern} (h : p.text ≠ "") :
    value? (.string (partsOf p.text)) = some (some p) := by
  have hoptional : (Written.string (partsOf p.text)).optional? Written.text? = some (some p.text) :=
    congrArg (Option.map some) (text?_string_partsOf p.text)
  rw [value?, hoptional]
  change (ofSetting p.text).toOption = some (some p)
  rw [ofSetting, if_neg h, ofText?_text]
  rfl

namespace Settings

/-- The written form of the value of a setting. -/
def written (s : Settings) : Setting → Written
  | .virtualenv => s.virtualenv.written fun text ↦ .string (partsOf text)
  | .interpreter => s.interpreter.written fun text ↦ .string (partsOf text)
  | .packagePaths => s.packagePaths.written writtenTexts
  | .functionParams => s.functionParams.written
  | .completionTimeout => .number false ⟨Nat.toDigits 10 s.completionTimeout, none, none⟩
  | .triggerPattern => match s.triggerPattern with
    | some p => .string (partsOf p.text)
    | none => .null
  | .fuzzy => .bool s.fuzzy
  | .visibility => .string (partsOf s.visibility.text)
  | .commandsScope => .string (partsOf s.commandsScope)
  | .enableInRepl => .bool s.enableInRepl
  | .loggingLevel => .string (partsOf s.loggingLevel.name)

theorem spells_fieldJson (s : Settings) (key : Setting) :
    Spells (s.fieldJson key).chars (.value (s.written key)) := by
  have hbool (b : Bool) : Spells (Json.bool b).chars (.value (.bool b)) := by
    cases b
    · exact .isFalse
    · exact .isTrue
  cases key with
  | virtualenv => exact PerPlatform.spells_toJson Json.spells_string _
  | interpreter => exact PerPlatform.spells_toJson Json.spells_string _
  | packagePaths => exact PerPlatform.spells_toJson spells_ofStrings _
  | functionParams => exact s.functionParams.spells_toJson
  | completionTimeout => exact Json.spells_ofNat _
  | triggerPattern =>
    rw [fieldJson, written]
    cases s.triggerPattern with
    | some p => exact Json.spells_string _
    | none => exact .null
  | fuzzy => exact hbool _
  | visibility => exact Json.spells_string _
  | commandsScope => exact Json.spells_string _
  | enableInRepl => exact hbool _
  | loggingLevel => exact Json.spells_string _

theorem value?_written (s : Settings) {key : Setting} (h : key.Canonical (s.get key)) :
    key.value? (s.written key) = some (s.get key) := by
  cases key with
  | virtualenv => exact PerPlatform.value?_written "" text?_string_partsOf _
  | interpreter => exact PerPlatform.value?_written "" text?_string_partsOf _
  | packagePaths => exact PerPlatform.value?_written [] list?_writtenTexts _
  | functionParams => exact s.functionParams.value?_written
  | completionTimeout =>
    have hle : s.completionTimeout ≤ maxWord := h
    change (if _ then _ else _) = some s.completionTimeout
    rw [Json.digitsValue_toDigits, if_pos hle]
  | triggerPattern =>
    change TriggerPattern.value? (s.written .triggerPattern) = some s.triggerPattern
    rw [written]
    cases hpattern : s.triggerPattern with
    | none => rfl
    | some p => exact TriggerPattern.value?_string (h p hpattern)
  | fuzzy => rfl
  | visibility =>
    have hvisibility : Visibility.ofText s.visibility.text = s.visibility := h
    change (Written.string (partsOf s.visibility.text)).text?.map Visibility.ofText =
      some s.visibility
    rw [text?_string_partsOf, Option.map_some, hvisibility]
  | commandsScope => exact text?_string_partsOf _
  | enableInRepl => rfl
  | loggingLevel =>
    change (textOf? (partsOf s.loggingLevel.name)).bind LogLevel.ofText? = some s.loggingLevel
    rw [Json.textOf?_partsOf]
    cases s.loggingLevel <;> rfl

theorem canonical_of_parse {text : String} {s : Settings} (h : parse text = .ok s)
    (key : Setting) : key.Canonical (s.get key) := by
  rw [parse, fields_eq] at h
  refine (Ensures.record Setting.ensures_readValueOf "Settings" _ fun key ↦ ?_).document h key
  cases key with
  | completionTimeout => exact (by decide : 10 ≤ maxWord)
  | triggerPattern =>
    intro p hp
    cases hp
  | visibility => exact rfl
  | _ => exact True.intro

/-- What is written is a document of the settings. -/
theorem isDocument_text (s : Settings) :
    IsDocument s.text
      (.object (Setting.all.map fun key ↦ (partsOf key.name, s.written key))) :=
  Json.isDocument_text (Json.spells_object (fun key _ ↦ s.spells_fieldJson key) Setting.name)

/-- **Settings that come from a document read back from the document that is written for them.** -/
theorem parse_text_of_parse {text : String} {s : Settings} (h : parse text = .ok s) :
    parse s.text = .ok s :=
  (parse_eq_ok_iff s.isDocument_text).mpr <|
    Shape.describes_map (fun _ ↦ Json.textOf?_partsOf _) fun key ↦
      s.value?_written (canonical_of_parse h key)

/-- The longest timeout, and a text with characters that need escapes. -/
def bounds : Settings := { default with commandsScope := "\x01\"", completionTimeout := maxWord }

def boundsText : String :=
  "\x7b\"commands_scope\":\"\\u0001\\u0022\", \"completion_timeout\":18446744073709551615\x7d"

theorem parse_text_bounds : parse boundsText = .ok bounds ∧ parse bounds.text = .ok bounds := by
  have h : parse boundsText = .ok bounds := toOption_eq_some_iff.mp (by decide +kernel)
  exact ⟨h, parse_text_of_parse h⟩

end Settings

end CodeHints
