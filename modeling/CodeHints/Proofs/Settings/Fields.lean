import CodeHints.Proofs.Json.Records
import CodeHints.Settings.Reader

/-!
# The fields of the settings

The settings and the values per platform are records (`Settings.shape`, `PerPlatform.shape`), and
every field takes the written values that its function `value?` is defined for. A document of one
value is read as the record that the value makes up (`Settings.toOption_parse`).
-/

namespace CodeHints

open Json (Fault Reader Shape Written StringPart Spells IsDocument isBlanks_nil textOf?)
open Json.Reader

/-! ## Values per platform -/

namespace PerPlatform

variable {α : Type}

abbrev shape (α : Type) : Shape Platform (PerPlatform α) where
  Value _ := α
  keys := Platform.all
  name := Platform.name
  get := get
  set := set
  mem_keys p := by cases p <;> decide
  nodup_keys := by decide
  name_injective p q h := by cases p <;> cases q <;> first | rfl | exact absurd h (by decide)
  get_set_self := get_set_self
  get_set_of_ne v _ _ a := v.get_set_of_ne a
  ext_get {v w} h := by
    obtain ⟨windows, osx, linux⟩ := v
    obtain rfl : windows = w.windows := h .windows
    obtain rfl : osx = w.osx := h .osx
    obtain rfl : linux = w.linux := h .linux
    rfl

/-- What a written value is as values per platform. -/
def value? (missing : α) (element : Written → Option α) : Written → Option (PerPlatform α) :=
  (shape α).record? (fun _ ↦ element) (.const missing)

theorem fields_eq (element : Nat → Reader α) :
    fields element = fieldsOf (shape α) fun _ ↦ element :=
  List.map_congr_left fun _ _ ↦ rfl

theorem reads {missing : α} {element : Nat → Reader α} {value : Written → Option α} {depth : Nat}
    (h : Reads (element (depth - 1)) value) (hdepth : 2 ≤ depth) :
    Reads (PerPlatform.read missing element depth) (value? missing value) := by
  rw [PerPlatform.read, fields_eq]
  exact Reads.record (fun _ ↦ h) hdepth "PerPlatform" _

end PerPlatform

/-! ## Modes, levels and patterns -/

def FunctionParams.value? : Written → Option FunctionParams
  | .null => some .off
  | .bool flag => some (.ofFlag flag)
  | .string parts => (textOf? parts).map .ofText
  | _ => none

def LogLevel.value? : Written → Option LogLevel
  | .string parts => (textOf? parts).bind LogLevel.ofText?
  | .object [(parts, .null)] => (textOf? parts).bind LogLevel.ofText?
  | _ => none

def TriggerPattern.value? (v : Written) : Option (Option TriggerPattern) := do
  match ← v.optional? Written.text? with
  | none => some none
  | some text => (TriggerPattern.ofSetting text).toOption

theorem TriggerPattern.reads : Reads TriggerPattern.read TriggerPattern.value? := by
  refine reads_text.optional.andThen fun text s ↦ ?_
  cases text with
  | none => rfl
  | some text => exact run?_liftM _ s

theorem FunctionParams.reads (depth : Nat) :
    Reads (FunctionParams.read depth) FunctionParams.value? := by
  intro a s rest v ha hs hrest
  obtain ⟨c, hc, hlook⟩ := run?_bind_peek ha hs rest
  rw [FunctionParams.read, readOptional, bind_assoc, hlook]
  split
  · next h =>
    obtain ⟨rfl, rfl⟩ := hs.of_begins_null (Option.some.inj h ▸ hc)
    rw [bind_assoc]
    exact run?_bind_of_eq_some (run?_ident "null" rest) _
  · next hnull =>
    have hwhole : Reads (Json.Reader.readValue depth >>= fun j ↦ liftM (ofJson j)) _ :=
      .whole (fun j ↦ run?_liftM (ofJson j)) (fun _ ↦ rfl) (fun _ ↦ rfl) (fun _ ↦ rfl) depth
    have hread := hwhole [] s rest v isBlanks_nil hs hrest
    rw [bind_map_left]
    refine hread.trans ?_
    cases v with
    | null => exact absurd (congrArg some hc) hnull
    | string parts =>
      dsimp only [Written.atom?, value?]
      cases textOf? parts <;> rfl
    | _ => rfl

theorem LogLevel.run?_ofText (text : String) (s : List Char) :
    (liftM (LogLevel.ofText text) : Reader LogLevel).run? s =
      (LogLevel.ofText? text).map (·, s) := by
  rw [run?_liftM, LogLevel.ofText]
  cases LogLevel.ofText? text <;> rfl

/-- Nothing may follow the one member of an object that holds a level. -/
theorem LogLevel.run?_end {t : List Char} {ms : List (List StringPart × Written)}
    (ht : Spells t (.members false ms)) (level : LogLevel) (rest : List Char) :
    (do match ← peek with
      | some '\x7d' => eat; return level
      | some _ => throw .expectedValue
      | none => throw .endInObject : Reader LogLevel).run? (t ++ '\x7d' :: rest) =
        match ms with
        | [] => some (level, rest)
        | _ :: _ => none := by
  cases ht with
  | noMembers ha =>
    rw [run?_bind_of_eq_some (run?_peek ha (by decide) _)]
    exact run?_bind_of_eq_some (run?_eat _ _) _
  | member hl _ _ _ _ _ =>
    cases hl with
    | later ha hb =>
      simp only [List.append_assoc, List.cons_append]
      rw [run?_bind_of_eq_some (run?_peek ha (by decide) _)]
      rfl

theorem LogLevel.reads {depth : Nat} (hdepth : 2 ≤ depth) :
    Reads (LogLevel.read depth) LogLevel.value? := by
  intro a s rest v ha hs hrest
  obtain ⟨c, hc, hlook⟩ := run?_bind_peek ha hs rest
  rw [LogLevel.read, hlook]
  split
  · next h => cases h
  · next h =>
    obtain rfl := Option.some.inj h
    obtain ⟨t, parts, rfl, rfl, ht⟩ := hs.of_begins_string hc
    rw [List.cons_append, List.append_assoc, List.singleton_append,
      run?_bind_of_eq_map (run?_string ht rest), value?]
    cases textOf? parts with
    | none => rfl
    | some text => exact run?_ofText text rest
  · next h =>
    obtain rfl := Option.some.inj h
    obtain ⟨t, ms, rfl, rfl, ht⟩ := hs.of_begins_object hc
    rw [List.cons_append, List.append_assoc, List.singleton_append,
      run?_bind_of_eq_some (run?_descend hdepth _), run?_bind_of_eq_some (run?_eat _ _)]
    cases ht with
    | noMembers ha =>
      exact run?_bind_of_eq_some (run?_nextName_end true ha rest) _
    | @member l n a' b s t _ parts v ms hl hn ha' hb hv ht =>
      simp only [List.append_assoc, List.cons_append]
      rw [run?_bind_of_eq_map (run?_nextName_member hl hn _)]
      -- The name may be refused before its value, and the value before what follows it. `value?`
      -- looks at all of them at once.
      cases hparts : textOf? parts with
      | none => cases v <;> cases ms <;> simp [value?, hparts]
      | some text =>
        rw [Option.map_some, Option.bind_some]
        dsimp only
        rw [run?_bind_of_eq_map (run?_ofText text _)]
        cases hlevel : LogLevel.ofText? text with
        | none => cases v <;> cases ms <;> simp [value?, hparts, hlevel]
        | some level =>
          rw [Option.bind_some, run?_bind_of_eq_some (run?_colon ha' _), run?_bind,
            run?_readNull hb hv]
          cases v with
          | null =>
            refine (run?_end ht level rest).trans ?_
            cases ms <;> simp [value?, hparts, hlevel]
          | _ => rfl
  · next hstring hobject heq =>
    obtain rfl := Option.some.inj heq
    cases v with
    | string parts => exact absurd hc hstring
    | object ms => exact absurd hc hobject
    | _ => rfl

/-! ## The settings -/

abbrev Setting.Value : Setting → Type
  | .virtualenv | .interpreter => PerPlatform String
  | .packagePaths => PerPlatform (List String)
  | .functionParams => FunctionParams
  | .completionTimeout => Nat
  | .triggerPattern => Option TriggerPattern
  | .fuzzy | .enableInRepl => Bool
  | .visibility => Visibility
  | .commandsScope => String
  | .loggingLevel => LogLevel

/-- What a written value is as the value of a setting. -/
def Setting.value? : (key : Setting) → Written → Option key.Value
  | .virtualenv | .interpreter => PerPlatform.value? "" Written.text?
  | .packagePaths => PerPlatform.value? [] (Written.list? Written.text?)
  | .functionParams => FunctionParams.value?
  | .completionTimeout => Written.word?
  | .triggerPattern => TriggerPattern.value?
  | .fuzzy | .enableInRepl => Written.flag?
  | .visibility => fun v ↦ v.text?.map .ofText
  | .commandsScope => Written.text?
  | .loggingLevel => LogLevel.value?

namespace Settings

def get (s : Settings) : (key : Setting) → key.Value
  | .virtualenv => s.virtualenv
  | .interpreter => s.interpreter
  | .packagePaths => s.packagePaths
  | .functionParams => s.functionParams
  | .completionTimeout => s.completionTimeout
  | .triggerPattern => s.triggerPattern
  | .fuzzy => s.fuzzy
  | .visibility => s.visibility
  | .commandsScope => s.commandsScope
  | .enableInRepl => s.enableInRepl
  | .loggingLevel => s.loggingLevel

def set (s : Settings) : (key : Setting) → key.Value → Settings
  | .virtualenv, x => { s with virtualenv := x }
  | .interpreter, x => { s with interpreter := x }
  | .packagePaths, x => { s with packagePaths := x }
  | .functionParams, x => { s with functionParams := x }
  | .completionTimeout, x => { s with completionTimeout := x }
  | .triggerPattern, x => { s with triggerPattern := x }
  | .fuzzy, x => { s with fuzzy := x }
  | .visibility, x => { s with visibility := x }
  | .commandsScope, x => { s with commandsScope := x }
  | .enableInRepl, x => { s with enableInRepl := x }
  | .loggingLevel, x => { s with loggingLevel := x }

theorem get_set_of_ne (s : Settings) {key other : Setting} (x : key.Value) (h : other ≠ key) :
    (s.set key x).get other = s.get other := by
  cases key <;> cases other <;> first | rfl | exact absurd rfl h

theorem ext_get {s t : Settings} (h : ∀ key, s.get key = t.get key) : s = t := by
  cases s
  cases t
  rw [mk.injEq]
  exact ⟨h .virtualenv, h .interpreter, h .packagePaths, h .functionParams, h .completionTimeout,
    h .triggerPattern, h .fuzzy, h .visibility, h .commandsScope, h .enableInRepl,
    h .loggingLevel⟩

abbrev shape : Shape Setting Settings where
  Value := Setting.Value
  keys := Setting.all
  name := Setting.name
  get := get
  set := set
  mem_keys key := by cases key <;> decide
  nodup_keys := by decide
  name_injective p q h := by cases p <;> cases q <;> first | rfl | exact absurd h (by decide)
  get_set_self s key x := by cases key <;> rfl
  get_set_of_ne s _ _ x := s.get_set_of_ne x
  ext_get := ext_get

def readValueOf : (key : Setting) → Nat → Reader key.Value
  | .virtualenv, depth | .interpreter, depth => PerPlatform.read "" (fun _ ↦ readText) depth
  | .packagePaths, depth => PerPlatform.read [] (readList readText) depth
  | .functionParams, depth => FunctionParams.read depth
  | .completionTimeout, _ => readWord
  | .triggerPattern, _ => TriggerPattern.read
  | .fuzzy, _ | .enableInRepl, _ => readBool
  | .visibility, _ => Visibility.ofText <$> readText
  | .commandsScope, _ => readText
  | .loggingLevel, depth => LogLevel.read depth

theorem readField_eq (key : Setting) (depth : Nat) (s : Settings) :
    readField key depth s = s.set key <$> readValueOf key depth := by
  cases key <;> simp only [readValueOf, map_eq_pure_bind, bind_assoc] <;> rfl

theorem fields_eq : fields = fieldsOf shape readValueOf :=
  List.map_congr_left fun key _ ↦ congrArg (RecordField.mk key.name) <|
    funext fun depth ↦ funext fun s ↦ readField_eq key depth s

theorem reads_readValueOf (key : Setting) {depth : Nat} (hdepth : 3 ≤ depth) :
    Reads (readValueOf key depth) key.value? := by
  have hinner : 2 ≤ depth - 1 := by omega
  have houter : 2 ≤ depth := by omega
  cases key with
  | virtualenv => exact PerPlatform.reads reads_text houter
  | interpreter => exact PerPlatform.reads reads_text houter
  | packagePaths => exact PerPlatform.reads (reads_text.list hinner) houter
  | functionParams => exact FunctionParams.reads depth
  | completionTimeout => exact reads_word
  | triggerPattern => exact TriggerPattern.reads
  | fuzzy => exact reads_bool
  | visibility => exact reads_text.map _
  | commandsScope => exact reads_text
  | enableInRepl => exact reads_bool
  | loggingLevel => exact LogLevel.reads houter

/-- **A document is read for what it says.** -/
theorem toOption_parse {text : String} {v : Written} (h : IsDocument text v) :
    (parse text).toOption = shape.record? Setting.value? default v := by
  rw [parse, fields_eq]
  exact (Reads.record (fun key ↦ reads_readValueOf key (by decide)) (by decide) _ _).document h

theorem parse_eq_ok_iff {text : String} {ms : List (List StringPart × Written)}
    (h : IsDocument text (.object ms)) {s : Settings} :
    parse text = .ok s ↔ shape.Describes (fun key v x ↦ key.value? v = some x) default ms s := by
  rw [← Shape.record?_object_eq_some_iff, ← toOption_parse h, toOption_eq_some_iff]

end Settings

end CodeHints
