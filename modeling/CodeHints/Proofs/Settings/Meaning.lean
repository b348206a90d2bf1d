import CodeHints.Proofs.Settings.Fields

/-!
# Settings documents mean their members

A settings document is read member after member, and yet the result can be told from its members
alone: every setting is what its own member means, or the default if it has none
(`Settings.parse_object`). Neither the order of the members nor the blanks between tokens nor
members with other names play a part, and the same holds once more inside the values per platform.

`Setting.Means` says what a value means without mentioning how it is read. A value per platform is
an object whose members are looked up by name. All other values are taken from the written value by
a function of their type, such as `Written.word?`.
-/

namespace CodeHints

open Json (Shape Written StringPart Spells IsBlanks IsWhole IsDocument HasNames)
open Json (isBlanks_nil valuesOf)

/-- An object means the values of its members, and `missing` for a platform without one. -/
def PerPlatform.Means {α : Type} (missing : α) (element : Written → Option α) (v : Written)
    (x : PerPlatform α) : Prop :=
  ∃ ms, v = .object ms ∧
    (shape α).Describes (fun _ w a ↦ element w = some a) (.const missing) ms x

namespace Setting

/-- What a written value means as the value of a setting. -/
def Means : (key : Setting) → Written → key.Value → Prop
  | .virtualenv | .interpreter => PerPlatform.Means "" Written.text?
  | .packagePaths => PerPlatform.Means [] (Written.list? Written.text?)
  | key => fun v x ↦ key.value? v = some x

/-- A setting accepts the values that mean something. -/
def Accepts (key : Setting) (v : Written) : Prop := ∃ x, key.Means v x

/-- Two values that are the same but for what does not count: objects of values per platform may
list their members in another order, and have other members besides. -/
inductive Alike (key : Setting) : Written → Written → Prop
  | refl (v : Written) : Alike key v v
  | object {ms ms' : List (List StringPart × Written)} (hkey : key ∈ environment)
      (h : HasNames ms) (h' : HasNames ms')
      (hvalues : ∀ p : Platform, valuesOf p.name ms = valuesOf p.name ms') :
      Alike key (.object ms) (.object ms')

theorem Means.value?_eq {key : Setting} {v : Written} {x : key.Value} (h : key.Means v x) :
    key.value? v = some x := by
  have hobject {α : Type} {missing : α} {element : Written → Option α} {x : PerPlatform α}
      (h : PerPlatform.Means missing element v x) :
      PerPlatform.value? missing element v = some x := by
    obtain ⟨ms, rfl, hms⟩ := h
    exact (Shape.record?_object_eq_some_iff _ _).mpr hms
  cases key with
  | virtualenv => exact hobject h
  | interpreter => exact hobject h
  | packagePaths => exact hobject h
  | _ => exact h

theorem Alike.value?_eq {key : Setting} {v w : Written} (h : key.Alike v w) :
    key.value? v = key.value? w := by
  cases h with
  | refl => rfl
  | object hkey h h' hvalues =>
    have hobject {α : Type} (missing : α) (element : Written → Option α) :
        PerPlatform.value? missing element (.object _) =
          PerPlatform.value? missing element (.object _) :=
      Shape.record?_object_congr _ _ _ h h' fun p ↦
        hvalues p ▸ List.forall₂_same.mpr fun _ _ ↦ rfl
    cases key with
    | virtualenv => exact hobject _ _
    | interpreter => exact hobject _ _
    | packagePaths => exact hobject _ _
    | _ => exact absurd hkey (by decide)

end Setting

namespace Settings

/-- **A settings document means its members.** -/
theorem parse_object {text : String} {ms : List (List StringPart × Written)}
    (h : IsDocument text (.object ms)) :
    (HasNames ms → (∀ key : Setting, (valuesOf key.name ms).length ≤ 1) →
      (∀ key : Setting, ∀ v ∈ valuesOf key.name ms, key.Accepts v) →
      ∃ s, parse text = .ok s ∧ ∀ key : Setting,
        (valuesOf key.name ms = [] → s.get key = default.get key) ∧
        ∀ v ∈ valuesOf key.name ms, key.Means v (s.get key)) ∧
    (∀ (text' : String) (ms' : List (List StringPart × Written)),
      IsDocument text' (.object ms') → HasNames ms → HasNames ms' →
      (∀ key : Setting,
        List.Forall₂ key.Alike (valuesOf key.name ms) (valuesOf key.name ms')) →
      (parse text).toOption = (parse text').toOption) ∧
    ∀ key : Setting, 2 ≤ (valuesOf key.name ms).length → ∃ fault, parse text = .error fault := by
  refine ⟨fun hnames honce haccepts ↦ ?_, fun text' ms' h' hnames hnames' halike ↦ ?_,
    fun key htwice ↦ ?_⟩
  · obtain ⟨s, hs⟩ : ∃ s, shape.Describes Setting.Means default ms s :=
      Shape.exists_describes hnames honce haccepts
    refine ⟨s, (parse_eq_ok_iff h).mpr ?_, fun key ↦ ⟨hs.missing key, hs.present key⟩⟩
    exact hs.congr hnames fun key ↦ List.forall₂_same.mpr fun v _ x hx ↦ Setting.Means.value?_eq hx
  · rw [toOption_parse h, toOption_parse h']
    exact Shape.record?_object_congr _ _ _ hnames hnames' fun key ↦
      (halike key).imp fun _ _ ↦ Setting.Alike.value?_eq
  · cases hparse : parse text with
    | error fault => exact ⟨fault, rfl⟩
    | ok s =>
      have honce := ((parse_eq_ok_iff h).mp hparse).once key
      exact absurd honce (Nat.not_le.mpr htwice)

/-- Members that belong to no setting, at both levels, around a path for one platform. -/
def sampleMembers : List (List StringPart × Written) :=
  [("x".toList.map .char, .array [.null]),
   ("python_virtualenv".toList.map .char,
    .object [("y".toList.map .char, .number false ⟨['1'], none, none⟩),
      ("osx".toList.map .char, .string ("o".toList.map .char))])]

def sampleText : String :=
  "\x7b\"x\": [null], \"python_virtualenv\":\x7b\"y\":1,\"osx\":\"o\"\x7d \x7d"

/-- The same path, and nothing besides. -/
def plainMembers : List (List StringPart × Written) :=
  [("python_virtualenv".toList.map .char,
    .object [("osx".toList.map .char, .string ("o".toList.map .char))])]

def plainText : String := "\x7b\"python_virtualenv\":\x7b\"osx\":\"o\"\x7d\x7d"

/-- A flag that is given twice. -/
def twiceMembers : List (List StringPart × Written) :=
  List.replicate 2 ("fuzzy_jedi_completions".toList.map .char, .bool true)

def twiceText : String := "\x7b\"fuzzy_jedi_completions\":true,\"fuzzy_jedi_completions\":true\x7d"

theorem isDocument_sampleText : IsDocument sampleText (.object sampleMembers) := by
  have hnil := isBlanks_nil
  have hspace : IsBlanks [' '] := by decide
  have hone : Spells ['1'] (.value (.number false ⟨['1'], none, none⟩)) :=
    .natural (.mk (show IsWhole ['1'] by decide) .none .none)
  have hplatforms := Spells.object <|
    .member (.first hnil) (.plain (s := "y".toList) (by decide)) hnil hnil hone <|
    .member (.later hnil hnil) (.plain (s := "osx".toList) (by decide)) hnil hnil
      (.string (.plain (s := "o".toList) (by decide))) (.noMembers hnil)
  have hnull := Spells.array (.item (.first hnil) .null (.noItems hnil))
  have hdocument := Spells.object <|
    .member (.first hnil) (.plain (s := "x".toList) (by decide)) hnil hspace hnull <|
    .member (.later hnil hspace) (.plain (s := "python_virtualenv".toList) (by decide)) hnil hnil
      hplatforms (.noMembers hspace)
  exact ⟨[], _, [], hnil, hdocument, hnil, by decide⟩

theorem isDocument_plainText : IsDocument plainText (.object plainMembers) := by
  have hnil := isBlanks_nil
  have hpath := Spells.object <|
    .member (.first hnil) (.plain (s := "osx".toList) (by decide)) hnil hnil
      (.string (.plain (s := "o".toList) (by decide))) (.noMembers hnil)
  have hdocument := Spells.object <|
    .member (.first hnil) (.plain (s := "python_virtualenv".toList) (by decide)) hnil hnil hpath
      (.noMembers hnil)
  exact ⟨[], _, [], hnil, hdocument, hnil, by decide⟩

theorem isDocument_twiceText : IsDocument twiceText (.object twiceMembers) := by
  have hnil := isBlanks_nil
  have hname := Json.SpellsParts.plain (s := "fuzzy_jedi_completions".toList) (by decide)
  have hdocument := Spells.object <|
    .member (.first hnil) hname hnil hnil .isTrue <|
    .member (.later hnil hnil) hname hnil hnil .isTrue (.noMembers hnil)
  exact ⟨[], _, [], hnil, hdocument, hnil, by decide⟩

/-- Members of other names make no difference, and the name of a setting may not occur twice. -/
theorem parse_object_sampleText :
    (∃ s, parse sampleText = .ok s ∧ s.virtualenv = ⟨"", "o", ""⟩ ∧ s.completionTimeout = 10) ∧
      (parse sampleText).toOption = (parse plainText).toOption ∧
      ∃ fault, parse twiceText = .error fault := by
  have hnone (key : Setting) (hkey : key ≠ .virtualenv) : valuesOf key.name sampleMembers = [] := by
    cases key <;> first | rfl | exact absurd rfl hkey
  have hone : ∃ ms, valuesOf Setting.virtualenv.name sampleMembers = [.object ms] ∧
      Setting.virtualenv.Means (.object ms) (⟨"", "o", ""⟩ : PerPlatform String) :=
    ⟨_, rfl, _, rfl, (Shape.record?_object_eq_some_iff _ _).mp rfl⟩
  obtain ⟨ms, hvalues, hmeans⟩ := hone
  have honce (key : Setting) : (valuesOf key.name sampleMembers).length ≤ 1 := by
    cases key <;> decide
  have haccepts (key : Setting) : ∀ v ∈ valuesOf key.name sampleMembers, key.Accepts v := by
    intro v hv
    by_cases hkey : key = .virtualenv
    · subst hkey
      rw [hvalues, List.mem_singleton] at hv
      exact ⟨_, hv ▸ hmeans⟩
    · rw [hnone key hkey] at hv
      cases hv
  have halike (key : Setting) : List.Forall₂ key.Alike (valuesOf key.name sampleMembers)
      (valuesOf key.name plainMembers) := by
    cases key with
    | virtualenv =>
      exact .cons (.object (by decide) (by decide) (by decide) fun p ↦ by cases p <;> rfl) .nil
    | _ => exact .nil
  obtain ⟨hparse, hsame, -⟩ := parse_object isDocument_sampleText
  obtain ⟨s, hs, hfields⟩ := hparse (by decide) honce haccepts
  have hsome := ((hfields .virtualenv).2 _ (hvalues ▸ List.mem_singleton_self _)).value?_eq
  refine ⟨⟨s, hs, Option.some.inj (hsome.symm.trans hmeans.value?_eq),
    (hfields .completionTimeout).1 rfl⟩, ?_, ?_⟩
  · exact hsame plainText plainMembers isDocument_plainText (by decide) (by decide) halike
  · exact (parse_object isDocument_twiceText).2.2 .fuzzy (by decide)

end Settings

end CodeHints
