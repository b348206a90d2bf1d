import CodeHints.Proofs.Answering
import Mathlib.Data.List.Forall2

/-!
# Which parameters are completed

A call is completed with all of its parameters or only with the required ones. The two modes differ
in three ways: without keywords the pass over the parameters ends at the mark of differing
overloads, it leaves out what has a default, and there is no default to be shown. Here they are
related to each other. The required parameters are those of all parameters that have no default,
once the call is cut in front of the mark.

## Where hints come from

A hint belongs to a parameter if it has its name, and its default without the blanks in front of it.
Hints and parameters are paired by `List.Forall₂`, so that hints are in the order of the parameters
and no parameter has two. With keywords every parameter that can be completed has its hint; without
keywords this is a sublist of them.

Main result: `functionParameters_isCut`.
-/

namespace CodeHints

/-- The parameter can be completed: it has a name, is neither the receiver nor the mark of differing
overloads, and takes one argument. -/
structure Parameter.IsCompletable (p : Parameter) : Prop where
  named : p.name ≠ ""
  notReceiver : p.name ≠ "self"
  notMark : p.name ≠ "..."
  notPositional : p.kind ≠ .varPositional
  notKeyword : p.kind ≠ .varKeyword

theorem Parameter.isOffered_iff {all : Bool} {p : Parameter} :
    p.IsOffered all ↔ p.IsCompletable ∧ (p.default = none ∨ all) := by
  have hname : p.name ∉ ["", "self", "..."] ↔ p.name ≠ "" ∧ p.name ≠ "self" ∧ p.name ≠ "..." := by
    simp only [List.mem_cons, List.not_mem_nil, or_false, not_or, ne_eq]
  have hkind : p.kind ∉ [.varPositional, .varKeyword] ↔
      p.kind ≠ .varPositional ∧ p.kind ≠ .varKeyword := by
    simp only [List.mem_cons, List.not_mem_nil, or_false, not_or, ne_eq]
  rw [Parameter.IsOffered, hname, hkind]
  constructor
  · rintro ⟨⟨hnamed, hself, hmark⟩, ⟨hpositional, hkeyword⟩, hdefault⟩
    exact ⟨⟨hnamed, hself, hmark, hpositional, hkeyword⟩, hdefault⟩
  · rintro ⟨h, hdefault⟩
    exact ⟨⟨h.named, h.notReceiver, h.notMark⟩, ⟨h.notPositional, h.notKeyword⟩, hdefault⟩

instance (p : Parameter) : Decidable p.IsCompletable :=
  decidable_of_iff (p.IsOffered true) (Parameter.isOffered_iff.trans (and_iff_left (.inr rfl)))

/-- The second text is the first one without the blanks in front of it. -/
structure IsTrimmed (text trimmed : String) : Prop where
  exists_blanks : ∃ blanks, text.toList = blanks ++ trimmed.toList ∧
    ∀ c ∈ blanks, Unicode.Property.whiteSpace.holds c = true
  no_blank : ∀ c, trimmed.toList.head? = some c → Unicode.Property.whiteSpace.holds c = false

theorem isTrimmed_trimStart (text : String) : IsTrimmed text (trimStart text) where
  exists_blanks := by
    refine ⟨text.toList.takeWhile Unicode.Property.whiteSpace.holds, ?_, fun c hc ↦ ?_⟩
    · rw [trimStart, String.toList_ofList, List.takeWhile_append_dropWhile]
    · exact List.all_eq_true.mp List.all_takeWhile c hc
  no_blank c hc := by
    rw [trimStart, String.toList_ofList] at hc
    have hhead := List.head?_dropWhile_not Unicode.Property.whiteSpace.holds text.toList
    rw [hc] at hhead
    exact hhead

/-- The hint is for this parameter. -/
structure ParamHint.IsFor (p : Parameter) (hint : ParamHint) : Prop where
  name : hint.name = p.name
  default : Option.Rel IsTrimmed p.default hint.default

theorem Parameter.isFor_asHint (p : Parameter) : p.asHint.IsFor p where
  name := rfl
  default := by
    rw [asHint]
    cases p.default with
    | none => exact .none
    | some value => exact .some (isTrimmed_trimStart value)

theorem forall₂_isFor (all : Bool) (s : CallSignature) :
    List.Forall₂ ParamHint.IsFor (s.offered all) (functionParameters s all) := by
  rw [functionParameters_eq, List.forall₂_map_right_iff, List.forall₂_same]
  exact fun p _ ↦ p.isFor_asHint

theorem offered_sublist (all : Bool) (s : CallSignature) : (s.offered all).Sublist s.params := by
  rw [CallSignature.offered]
  refine List.filter_sublist.trans ?_
  cases all with
  | true => exact List.Sublist.refl _
  | false => exact List.takeWhile_sublist _

/-- Without keywords a parameter with a default has no hint, and any other has the same one. -/
theorem hint?_false_eq (p : Parameter) :
    p.hint? false = (p.hint? true).filter (·.default = none) := by
  rw [Parameter.hint?, Parameter.hint?]
  cases p.isSkipped with
  | true => rfl
  | false => cases p.default <;> rfl

theorem functionParameters_false_eq (s : CallSignature) :
    functionParameters s false =
      (functionParameters { s with params := s.params.takeWhile (·.name ≠ "...") } true).filter
        (·.default = none) := by
  have hmark : (fun p : Parameter ↦ p.name != ellipsis) = fun p ↦ decide (p.name ≠ "...") := by
    funext p
    by_cases h : p.name = "..." <;> simp [ellipsis, h]
  rw [functionParameters, functionParameters, CallSignature.reach, CallSignature.reach,
    List.filter_filterMap, funext hint?_false_eq, hmark]
  rfl

/-- **Required parameters are a cut of all parameters.** The hints without keywords are those of the
call with keywords that have no default, after it was cut in front of its first mark of differing
overloads. So they are a sublist of the hints with keywords. In both modes the hints belong, in this
order, to different parameters of the call that can be completed. With keywords they belong to all
of these. -/
theorem functionParameters_isCut (s : CallSignature) :
    functionParameters s false =
        (functionParameters { s with params := s.params.takeWhile (·.name ≠ "...") } true).filter
          (·.default = none) ∧
      (functionParameters s false).Sublist (functionParameters s true) ∧
      (∀ all, ∃ params : List Parameter, params.Sublist s.params ∧
        (∀ p ∈ params, p.IsCompletable) ∧
        List.Forall₂ ParamHint.IsFor params (functionParameters s all)) ∧
      List.Forall₂ ParamHint.IsFor (s.params.filter (·.IsCompletable))
        (functionParameters s true) := by
  refine ⟨functionParameters_false_eq s, ?_, fun all ↦ ?_, ?_⟩
  · rw [functionParameters_false_eq]
    exact List.filter_sublist.trans ((List.takeWhile_sublist _).filterMap _)
  · refine ⟨s.offered all, offered_sublist all s, fun p hp ↦ ?_, forall₂_isFor all s⟩
    exact (Parameter.isOffered_iff.mp (of_decide_eq_true (List.mem_filter.mp hp).2)).1
  · have hall : s.offered true = s.params.filter (·.IsCompletable) := by
      rw [CallSignature.offered, if_pos rfl]
      refine List.filter_congr fun p _ ↦ decide_eq_decide.mpr ?_
      rw [Parameter.isOffered_iff, and_iff_left (.inr rfl)]
    rw [← hall]
    exact forall₂_isFor true s

/-- A required parameter behind the mark only has a hint with keywords. -/
example :
    let s : CallSignature := ⟨"f", [⟨"self", .positionalOnly, none⟩,
      ⟨"a", .positionalOrKeyword, none⟩, ⟨"b", .positionalOrKeyword, some " 1"⟩,
      ⟨"...", .positionalOrKeyword, none⟩, ⟨"c", .keywordOnly, none⟩]⟩
    functionParameters s false = [⟨"a", none⟩] ∧
      functionParameters s true = [⟨"a", none⟩, ⟨"b", some "1"⟩, ⟨"c", none⟩] := by
  decide

end CodeHints
