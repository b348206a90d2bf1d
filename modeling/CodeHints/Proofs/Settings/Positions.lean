import CodeHints.Proofs.Json.Positions
import CodeHints.Proofs.Settings.Meaning

/-!
# Settings by position and by name

A settings document is an array of the values of the first settings, or an object that names them.
Inside it a value per platform may be written in both forms as well. The choices are independent of
each other, and none of them makes a difference. An array that is too long is refused in either
place.

Main result: `Settings.parse_restated`.

`Setting.Restated` relates a value to what it may be written as instead, and `Settings.Restates`
does so for whole documents. A value stands for what its form as an object means, so what the
elements of an array stand for is not said in a second way (`Setting.StandsFor`).
-/

namespace CodeHints

open Json (Shape Written StringPart Spells IsDocument HasNames Gives)
open Json (isBlanks_nil valuesOf exists_gives_object)

/-! ## Values in another form -/

namespace Setting

/-- The same value, or the same values per platform in another form: an array of at most one value
for each platform, or an object with their names. -/
inductive Restated (key : Setting) : Written → Written → Prop
  | refl (v : Written) : Restated key v v
  | platforms {ws : List Written} {v w : Written} (hkey : key ∈ environment)
      (hlength : ws.length ≤ Platform.all.length) (hv : Gives (Platform.all.map Platform.name) ws v)
      (hw : Gives (Platform.all.map Platform.name) ws w) : Restated key v w

/-- What holds of reading any values per platform holds of the settings that have such values. -/
theorem value?_of_mem_environment {key : Setting} (hkey : key ∈ environment)
    {P : ∀ {β : Type}, (Written → Option β) → Prop}
    (h : ∀ {α : Type} (missing : α) (element : Written → Option α),
      P (PerPlatform.value? missing element)) : P key.value? := by
  cases key with
  | virtualenv => exact h _ _
  | interpreter => exact h _ _
  | packagePaths => exact h _ _
  | _ => exact absurd hkey (by decide)

theorem Restated.value?_eq {key : Setting} {v w : Written} (h : key.Restated v w) :
    key.value? v = key.value? w := by
  cases h with
  | refl => rfl
  | platforms hkey hlength hv hw =>
    refine value?_of_mem_environment hkey (P := fun value ↦ value v = value w) fun _ _ ↦ ?_
    exact (Shape.record?_of_gives hv hlength).trans (Shape.record?_of_gives hw hlength).symm

/-- What a written value stands for, in whatever form it is: what it means as an object. -/
def StandsFor (key : Setting) (v : Written) (x : key.Value) : Prop :=
  ∃ w, key.Restated v w ∧ key.Means w x

/-- A value per platform is an object, or an array that has a form as an object. -/
theorem exists_restated_means {key : Setting} (hkey : key ∈ environment) {α : Type} {missing : α}
    {element : Written → Option α} {v : Written} {x : PerPlatform α}
    (h : PerPlatform.value? missing element v = some x) :
    ∃ w, key.Restated v w ∧ PerPlatform.Means missing element w x := by
  cases v with
  | array ws =>
    have hlength := (Shape.record?_array_eq_some_iff.mp h).length_le
    obtain ⟨ms, hms⟩ :=
      exists_gives_object (show (Platform.all.map Platform.name).Nodup by decide) ws
    have hobject := (Shape.record?_of_gives hms hlength).trans h
    exact ⟨.object ms, .platforms hkey hlength .array hms, ms, rfl,
      (Shape.record?_object_eq_some_iff _ _).mp hobject⟩
  | object ms => exact ⟨.object ms, .refl _, ms, rfl, (Shape.record?_object_eq_some_iff _ _).mp h⟩
  | _ => cases h

theorem standsFor_iff {key : Setting} {v : Written} {x : key.Value} :
    key.StandsFor v x ↔ key.value? v = some x := by
  constructor
  · rintro ⟨w, hw, hmeans⟩
    exact hw.value?_eq.trans hmeans.value?_eq
  · intro h
    cases key with
    | virtualenv => exact exists_restated_means (by decide) h
    | interpreter => exact exists_restated_means (by decide) h
    | packagePaths => exact exists_restated_means (by decide) h
    | _ => exact ⟨v, .refl v, h⟩

theorem StandsFor.unique {key : Setting} {v : Written} {x y : key.Value} (hx : key.StandsFor v x)
    (hy : key.StandsFor v y) : x = y :=
  Option.some.inj ((standsFor_iff.mp hx).symm.trans (standsFor_iff.mp hy))

end Setting

/-! ## Documents in another form -/

namespace Settings

/-- What a document may be written as instead. It gives the same first settings by position or by
name, or names the same settings, and every value is restated in turn. -/
inductive Restates : Written → Written → Prop
  | gives {v v' : Written} {vs vs' : List Written} (hlength : vs.length ≤ Setting.all.length)
      (hv : Gives (Setting.all.map Setting.name) vs v)
      (hv' : Gives (Setting.all.map Setting.name) vs' v')
      (hvalues : List.Forall₂ (fun m w ↦ m.1.Restated m.2 w) (Setting.all.zip vs) vs') :
      Restates v v'
  | members {ms ms' : List (List StringPart × Written)} (h : HasNames ms) (h' : HasNames ms')
      (hvalues : ∀ key : Setting,
        List.Forall₂ key.Restated (valuesOf key.name ms) (valuesOf key.name ms')) :
      Restates (.object ms) (.object ms')

theorem Restates.record?_eq {v v' : Written} (h : Restates v v') :
    shape.record? Setting.value? default v = shape.record? Setting.value? default v' := by
  cases h with
  | @gives _ _ vs vs' hlength hv hv' hvalues =>
    have hlength' := hvalues.length_eq
    rw [List.length_zip, Nat.min_eq_right hlength] at hlength'
    have hsame : shape.fromItems Setting.value? Setting.all vs default =
        shape.fromItems Setting.value? Setting.all vs' default :=
      Shape.fromItems_congr hlength (hvalues.imp fun _ _ ↦ Setting.Restated.value?_eq)
    exact (Shape.record?_of_gives hv hlength).trans
      (hsame.trans (Shape.record?_of_gives hv' (hlength' ▸ hlength)).symm)
  | members h h' hvalues =>
    exact Shape.record?_object_congr _ _ _ h h' fun key ↦
      (hvalues key).imp fun _ _ ↦ Setting.Restated.value?_eq

/-- Some array of the document is too long: there is no setting left for a value of the document, or
no platform for an element of a value per platform. -/
inductive IsTooLong : Written → Prop
  | settings {vs : List Written} (h : Setting.all.length < vs.length) : IsTooLong (.array vs)
  | element {vs ws : List Written} {key : Setting} (hkey : key ∈ Setting.environment)
      (hvalue : (key, .array ws) ∈ Setting.all.zip vs) (h : Platform.all.length < ws.length) :
      IsTooLong (.array vs)
  | member {ms : List (List StringPart × Written)} {ws : List Written} {key : Setting}
      (hkey : key ∈ Setting.environment) (hvalue : .array ws ∈ valuesOf key.name ms)
      (h : Platform.all.length < ws.length) : IsTooLong (.object ms)

theorem value?_of_tooLong {key : Setting} (hkey : key ∈ Setting.environment) {ws : List Written}
    (h : Platform.all.length < ws.length) : key.value? (.array ws) = none := by
  refine Setting.value?_of_mem_environment hkey (P := fun value ↦ value (.array ws) = none)
    fun _ _ ↦ Option.eq_none_iff_forall_ne_some.mpr fun x hx ↦ Nat.not_le.mpr h ?_
  exact (Shape.record?_array_eq_some_iff.mp hx).length_le

theorem IsTooLong.record?_eq_none {v : Written} (h : IsTooLong v) :
    shape.record? Setting.value? default v = none := by
  refine Option.eq_none_iff_forall_ne_some.mpr fun s hs ↦ ?_
  cases h with
  | settings h => exact Nat.not_le.mpr h (Shape.record?_array_eq_some_iff.mp hs).length_le
  | element hkey hvalue h =>
    have hpresent := (Shape.record?_array_eq_some_iff.mp hs).present _ hvalue
    rw [value?_of_tooLong hkey h] at hpresent
    cases hpresent
  | member hkey hvalue h =>
    have hpresent := ((Shape.record?_object_eq_some_iff _ _).mp hs).present _ _ hvalue
    rw [value?_of_tooLong hkey h] at hpresent
    cases hpresent

/-- **Settings by position and by name agree.** Documents that restate each other are read as the
same settings, or are both refused. A document that gives the first settings is read if and only if
every value stands for something, which is then the value of its setting, and the settings behind
have their defaults. A document with an array that is too long is refused. -/
theorem parse_restated {text : String} {v : Written} (h : IsDocument text v) :
    (∀ text' v', IsDocument text' v' → Restates v v' →
      (parse text).toOption = (parse text').toOption) ∧
    (∀ vs, Gives (Setting.all.map Setting.name) vs v → vs.length ≤ Setting.all.length →
      ((∃ s, parse text = .ok s) ↔ ∀ m ∈ Setting.all.zip vs, ∃ x, m.1.StandsFor m.2 x) ∧
      ∀ s, parse text = .ok s → (∀ m ∈ Setting.all.zip vs, m.1.StandsFor m.2 (s.get m.1)) ∧
        ∀ key ∉ Setting.all.take vs.length, s.get key = default.get key) ∧
    (IsTooLong v → ∃ fault, parse text = .error fault) := by
  refine ⟨fun text' v' h' hrestates ↦ ?_, fun vs hv hlength ↦ ?_, fun hlong ↦ ?_⟩
  · rw [toOption_parse h, toOption_parse h', hrestates.record?_eq]
  · have hparse (s : Settings) : parse text = .ok s ↔
        shape.record? Setting.value? default (.array vs) = some s := by
      rw [← Shape.record?_of_gives hv hlength, ← toOption_parse h,
        Json.Reader.toOption_eq_some_iff]
    have hassigns (s : Settings) (hs : parse text = .ok s) :=
      Shape.record?_array_eq_some_iff.mp ((hparse s).mp hs)
    refine ⟨⟨?_, fun hvalues ↦ ?_⟩, fun s hs ↦ ⟨fun m hm ↦ ?_, (hassigns s hs).missing⟩⟩
    · rintro ⟨s, hs⟩ m hm
      exact ⟨s.get m.1, Setting.standsFor_iff.mpr ((hassigns s hs).present m hm)⟩
    · have hitems : ∃ s, shape.fromItems Setting.value? Setting.all vs default = some s :=
        Shape.exists_fromItems hlength fun m hm ↦
          (hvalues m hm).imp fun _ ↦ Setting.standsFor_iff.mp
      exact hitems.imp fun s ↦ (hparse s).mpr
    · exact Setting.standsFor_iff.mpr ((hassigns s hs).present m hm)
  · cases hparse : parse text with
    | error fault => exact ⟨fault, rfl⟩
    | ok s =>
      have hsome := (toOption_parse h).symm.trans (Json.Reader.toOption_eq_some_iff.mpr hparse)
      rw [hlong.record?_eq_none] at hsome
      cases hsome

/-- Two values per platform, the second one as an object. -/
def pathsInOrder : List Written :=
  [.array [.string ("w".toList.map .char)],
   .object [("osx".toList.map .char, .string ("b".toList.map .char)),
     ("windows".toList.map .char, .string ("a".toList.map .char))]]

def pathsInOrderText : String := "[[\"w\"], \x7b\"osx\":\"b\",\"windows\":\"a\"\x7d]"

/-- The same values in the forms that they are not written in there. -/
def pathsRestated : List Written :=
  [.object [("windows".toList.map .char, .string ("w".toList.map .char))],
   .array [.string ("a".toList.map .char), .string ("b".toList.map .char)]]

/-- Members with these values. -/
def pathsByName : List (List StringPart × Written) :=
  [("python_interpreter".toList.map .char,
    .array [.string ("a".toList.map .char), .string ("b".toList.map .char)]),
   ("python_virtualenv".toList.map .char,
    .object [("windows".toList.map .char, .string ("w".toList.map .char))])]

def pathsByNameText : String :=
  "\x7b\"python_interpreter\":[\"a\",\"b\"],\"python_virtualenv\":\x7b\"windows\":\"w\"\x7d\x7d"

/-- A value with more elements than there are platforms. -/
def crowdedPaths : List Written := List.replicate 4 (.string ("w".toList.map .char))

def crowdedText : String := "[[\"w\",\"w\",\"w\",\"w\"]]"

theorem isDocument_pathsInOrderText : IsDocument pathsInOrderText (.array pathsInOrder) := by
  have hnil := isBlanks_nil
  have hspace : Json.IsBlanks [' '] := by decide
  have hfirst := Spells.array <|
    .item (.first hnil) (.string (.plain (s := "w".toList) (by decide))) (.noItems hnil)
  have hsecond := Spells.object <|
    .member (.first hnil) (.plain (s := "osx".toList) (by decide)) hnil hnil
      (.string (.plain (s := "b".toList) (by decide))) <|
    .member (.later hnil hnil) (.plain (s := "windows".toList) (by decide)) hnil hnil
      (.string (.plain (s := "a".toList) (by decide))) (.noMembers hnil)
  have hdocument := Spells.array <|
    .item (.first hnil) hfirst <| .item (.later hnil hspace) hsecond (.noItems hnil)
  exact ⟨[], _, [], hnil, hdocument, hnil, by decide⟩

theorem isDocument_pathsByNameText : IsDocument pathsByNameText (.object pathsByName) := by
  have hnil := isBlanks_nil
  have hfirst := Spells.array <|
    .item (.first hnil) (.string (.plain (s := "a".toList) (by decide))) <|
    .item (.later hnil hnil) (.string (.plain (s := "b".toList) (by decide))) (.noItems hnil)
  have hsecond := Spells.object <|
    .member (.first hnil) (.plain (s := "windows".toList) (by decide)) hnil hnil
      (.string (.plain (s := "w".toList) (by decide))) (.noMembers hnil)
  have hdocument := Spells.object <|
    .member (.first hnil) (.plain (s := "python_interpreter".toList) (by decide)) hnil hnil
      hfirst <|
    .member (.later hnil hnil) (.plain (s := "python_virtualenv".toList) (by decide)) hnil hnil
      hsecond (.noMembers hnil)
  exact ⟨[], _, [], hnil, hdocument, hnil, by decide⟩

theorem isDocument_crowdedText : IsDocument crowdedText (.array [.array crowdedPaths]) := by
  have hnil := isBlanks_nil
  have hpath : Spells ['"', 'w', '"'] (.value (.string ("w".toList.map .char))) :=
    .string (.plain (s := "w".toList) (by decide))
  have hpaths := Spells.array <|
    .item (.first hnil) hpath <| .item (.later hnil hnil) hpath <|
    .item (.later hnil hnil) hpath <| .item (.later hnil hnil) hpath (.noItems hnil)
  have hdocument := Spells.array (.item (.first hnil) hpaths (.noItems hnil))
  exact ⟨[], _, [], hnil, hdocument, hnil, by decide⟩

theorem restates_paths : Restates (.array pathsInOrder) (.object pathsByName) := by
  have hwindows : Gives (Platform.all.map Platform.name) [.string ("w".toList.map .char)]
      pathsRestated[0] :=
    (PerPlatform.shape String).gives_object (by decide) fun p ↦ by cases p <;> rfl
  have hboth : Gives (Platform.all.map Platform.name)
      [.string ("a".toList.map .char), .string ("b".toList.map .char)] pathsInOrder[1] :=
    (PerPlatform.shape String).gives_object (by decide) fun p ↦ by cases p <;> rfl
  have hnames : Gives (Setting.all.map Setting.name) pathsRestated (.object pathsByName) :=
    shape.gives_object (by decide) fun key ↦ by cases key <;> rfl
  exact .gives (by decide) .array hnames <|
    .cons (.platforms (by decide) (by decide) .array hwindows) <|
    .cons (.platforms (by decide) (by decide) hboth .array) .nil

/-- Forms may be mixed, at both levels, and an array may not have more elements than platforms. -/
theorem parse_restated_paths :
    (∃ s, parse pathsInOrderText = .ok s ∧ parse pathsByNameText = .ok s ∧
      s.virtualenv = ⟨"w", "", ""⟩ ∧ s.interpreter = ⟨"a", "b", ""⟩ ∧
      s.packagePaths = .const []) ∧
    ∃ fault, parse crowdedText = .error fault := by
  obtain ⟨hsame, hread, -⟩ := parse_restated isDocument_pathsInOrderText
  obtain ⟨haccepts, hgets⟩ := hread pathsInOrder .array (by decide)
  have hfirst : Setting.virtualenv.StandsFor pathsInOrder[0] (⟨"w", "", ""⟩ : PerPlatform String) :=
    Setting.standsFor_iff.mpr rfl
  have hsecond :
      Setting.interpreter.StandsFor pathsInOrder[1] (⟨"a", "b", ""⟩ : PerPlatform String) :=
    Setting.standsFor_iff.mpr rfl
  obtain ⟨s, hs⟩ := haccepts.mpr <|
    List.forall_mem_cons.mpr ⟨⟨_, hfirst⟩, List.forall_mem_cons.mpr ⟨⟨_, hsecond⟩, nofun⟩⟩
  obtain ⟨hvalues, hdefaults⟩ := hgets s hs
  have hnamed := hsame _ _ isDocument_pathsByNameText restates_paths
  rw [hs, eq_comm] at hnamed
  refine ⟨⟨s, hs, Json.Reader.toOption_eq_some_iff.mp hnamed, ?_, ?_, ?_⟩, ?_⟩
  · exact (hvalues (.virtualenv, _) List.mem_cons_self).unique hfirst
  · exact (hvalues (.interpreter, _) (List.mem_cons_of_mem _ List.mem_cons_self)).unique hsecond
  · exact hdefaults .packagePaths (by decide)
  · have hvirtualenv : Setting.virtualenv ∈ Setting.environment := by decide
    exact (parse_restated isDocument_crowdedText).2.2 <|
      .element hvirtualenv List.mem_cons_self (by decide)

end Settings

end CodeHints
