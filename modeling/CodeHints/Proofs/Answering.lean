import CodeHints.Proofs.Deduplication
import CodeHints.Proofs.Resumption

/-!
# What a request is answered with

The whole of what `execute` does for one request: which calls the analyzer is put, in which order
and with what, when no further call is made, and what the answer is made of.

The analyzer is the one of `recording`. It may reply as it likes, also differently to the same call,
and what it was asked and replied is noted as a list of `Exchange`s. `Carried` says what that list
is for a list of planned calls: they are made in turn, and the first one that is not answered is the
last.

## What the answer is made of

The answer is described without the functions that compute it. `CallSignature.offered` selects
parameters by what is to hold of each of them, `parameterEntries` numbers what is left, and
`firstOfEach` keeps the entries that have no other one in front of them with the same text. The code
does these things in a single pass each. It has one switch for the parameters with a default and
another one for showing the default; they are always set alike (`callEntries_eq`), and a parameter
whose default is not shown is never offered.

Main result: `execute_carried`.
-/

namespace CodeHints

/-! ## The analyzer and its notes -/

/-- A call of the analyzer has given a value. -/
def EngineCall.IsAnswered : (question : EngineCall) → question.Reply → Prop
  | .defaultEnvironment, reply | .createEnvironment _, reply => ∃ made, reply = .value made
  | .analyze _, reply => ∃ analyzed, reply = .value analyzed
  | .callSignatures _, reply => ∃ found, reply = .value found
  | .completions _ _, reply => ∃ found, reply = .value found

/-- A call of the analyzer and what came of it. -/
structure Exchange where
  question : EngineCall
  reply : question.Reply

/-- The call has given a value: it neither reported an error nor broke down. -/
def Exchange.IsAnswered (x : Exchange) : Prop := x.question.IsAnswered x.reply

/-- How an analyzer replies to a call after everything it was asked before. -/
abbrev Replying : Type := List Exchange → (question : EngineCall) → question.Reply

/-- A call that is put to an analyzer, with the reply. -/
def Replying.exchange (reply : Replying) (past : List Exchange) (question : EngineCall) :
    Exchange :=
  ⟨question, reply past question⟩

/-- Put one call to an analyzer, and note it with the reply. -/
def note (reply : Replying) (question : EngineCall) : StateM (List Exchange) question.Reply :=
  fun past ↦ (reply past question, past ++ [reply.exchange past question])

/-- An analyzer that notes every call. -/
def recording (reply : Replying) : Engine (StateM (List Exchange)) where
  defaultEnvironment := note reply .defaultEnvironment
  createEnvironment path := note reply (.createEnvironment path)
  analyze script := note reply (.analyze script)
  callSignatures script := note reply (.callSignatures script)
  completions script fuzzy := note reply (.completions script fuzzy)

/-- Of the calls that are planned, those are made that come before the first one without an answer,
and that one. -/
inductive Carried (reply : Replying) : List Exchange → List EngineCall → List Exchange → Prop
  | done (past : List Exchange) : Carried reply past [] []
  | stopped {past : List Exchange} {question : EngineCall} (planned : List EngineCall)
      (h : ¬(reply.exchange past question).IsAnswered) :
      Carried reply past (question :: planned) [reply.exchange past question]
  | answered {past made : List Exchange} {question : EngineCall} {planned : List EngineCall}
      (h : (reply.exchange past question).IsAnswered)
      (hmade : Carried reply (past ++ [reply.exchange past question]) planned made) :
      Carried reply past (question :: planned) (reply.exchange past question :: made)

/-! ## The parts of an answer -/

/-- A parameter can be offered. Those without a name, the receiver, the mark of differing overloads
and the variadic ones never are, and those with a default only if all parameters are wanted. -/
def Parameter.IsOffered (all : Bool) (p : Parameter) : Prop :=
  p.name ∉ ["", "self", "..."] ∧ p.kind ∉ [.varPositional, .varKeyword] ∧ (p.default = none ∨ all)

instance (all : Bool) (p : Parameter) : Decidable (p.IsOffered all) :=
  inferInstanceAs (Decidable (_ ∧ _ ∧ _))

/-- The parameters of a call that are offered. Unless all parameters are wanted, those behind the
mark of differing overloads are not. -/
def CallSignature.offered (all : Bool) (s : CallSignature) : List Parameter :=
  (if all then s.params else s.params.takeWhile (·.name != "...")).filter (·.IsOffered all)

/-- What is inserted for a parameter: a numbered placeholder for its value, with the default as its
text if there is one. -/
def Parameter.snippet (number : Nat) (p : Parameter) : String :=
  match p.default with
  | none => "$\x7b" ++ toString number ++ ":" ++ p.name ++ "\x7d"
  | some value => p.name ++ "=" ++ ("$\x7b" ++ toString number ++ ":" ++ trimStart value ++ "\x7d")

/-- The entries for the parameters of the innermost call, numbered from one. -/
def parameterEntries (all : Bool) (signatures : List CallSignature) : List Entry :=
  match signatures.head? with
  | none => []
  | some s => (s.offered all).mapIdx fun i p ↦ ⟨p.name ++ "\tparam", p.snippet (i + 1)⟩

private theorem hintEntries_map (withValues : Bool) (index : Nat) (hint : Parameter → ParamHint)
    (params : List Parameter) :
    hintEntries withValues index (params.map hint) =
      params.mapIdx fun i p ↦ (hint p).entry withValues (index + i) := by
  induction params generalizing index with
  | nil => rfl
  | cons p rest ih =>
    have hshift : (fun i p ↦ (hint p).entry withValues (index + 1 + i)) =
        fun i p ↦ (hint p).entry withValues (index + (i + 1)) := by
      funext i p
      rw [Nat.add_assoc, Nat.add_comm 1 i]
    rw [List.map_cons, hintEntries, ih, hshift, List.mapIdx_cons, Nat.add_zero]

/-- The hint for a parameter that is offered. -/
def Parameter.asHint (p : Parameter) : ParamHint := ⟨p.name, p.default.map trimStart⟩

theorem isSkipped_iff (p : Parameter) :
    p.isSkipped = true ↔ p.name ∈ ["", "self", "..."] ∨ p.kind ∈ [.varPositional, .varKeyword] := by
  have hkind : p.kind.isVariadic = true ↔ p.kind ∈ [.varPositional, .varKeyword] := by
    cases p.kind <;> decide
  have hname : (p.name = "" ∨ p.name = "self") ∨ p.name = ellipsis ↔
      p.name ∈ ["", "self", "..."] := by
    rw [ellipsis, List.mem_cons, List.mem_cons, List.mem_singleton, or_assoc]
  rw [Parameter.isSkipped, Bool.or_eq_true, Bool.or_eq_true, Bool.or_eq_true, decide_eq_true_eq,
    decide_eq_true_eq, decide_eq_true_eq, hname, hkind]

theorem hint?_eq (all : Bool) (p : Parameter) :
    p.hint? all = if p.IsOffered all then some p.asHint else none := by
  rw [Parameter.hint?]
  by_cases hskipped : p.isSkipped = true
  · have hnot : ¬p.IsOffered all := fun h ↦
      ((isSkipped_iff p).mp hskipped).elim h.1 h.2.1
    rw [if_pos hskipped, if_neg hnot]
  · have hnot := mt (isSkipped_iff p).mpr hskipped
    have hiff : p.IsOffered all ↔ p.default = none ∨ all :=
      ⟨fun h ↦ h.2.2, fun h ↦ ⟨fun hn ↦ hnot (.inl hn), fun hk ↦ hnot (.inr hk), h⟩⟩
    rw [if_neg hskipped, Parameter.asHint]
    simp only [hiff]
    cases p.default with
    | none => simp only [true_or, if_true, Option.map_none]
    | some value => cases all <;> simp

theorem functionParameters_eq (all : Bool) (s : CallSignature) :
    functionParameters s all = (s.offered all).map Parameter.asHint := by
  have hhint : Parameter.hint? all = fun p ↦
      if decide (p.IsOffered all) = true then (some ∘ Parameter.asHint) p else none := by
    funext p
    simp only [hint?_eq, decide_eq_true_eq, Function.comp_apply]
  rw [functionParameters, CallSignature.offered, CallSignature.reach, ellipsis,
    ← List.filterMap_eq_map, List.filterMap_filter, hhint]

/-- What the code collects for the innermost call, with both of its switches set alike. -/
theorem callEntries_eq (all : Bool) (signatures : List CallSignature) :
    callEntries all all signatures = parameterEntries all signatures := by
  cases signatures with
  | nil => rfl
  | cons s rest =>
    rw [callEntries, parameterEntries, List.head?_cons, functionParameters_eq, hintEntries_map]
    refine List.mapIdx_eq_mapIdx_iff.mpr fun i hi ↦ ?_
    have hoffered : (s.offered all)[i].IsOffered all :=
      of_decide_eq_true (List.mem_filter.mp (List.getElem_mem hi)).2
    generalize (s.offered all)[i] = p at hoffered ⊢
    rw [ParamHint.entry, Parameter.asHint, Parameter.snippet, Nat.add_comm 1 i]
    cases hdefault : p.default with
    | none => rfl
    | some value =>
      have hall : all = true := hoffered.2.2.resolve_left (by simp [hdefault])
      simp only [hall, Option.map_some, if_true, placeholder]

/-! ## One call after the other -/

section

variable {reply : Replying} {past made : List Exchange} {question : EngineCall}
  {planned : List EngineCall} {answer : Option Answer}

/-- The calls of a plan were made. There is no answer exactly if one of them was not answered, and
otherwise the answer is a good one. -/
structure Served (reply : Replying) (past : List Exchange) (planned : List EngineCall)
    (made : List Exchange) (answer : Option Answer) (Good : Answer → Prop) : Prop where
  carried : Carried reply past planned made
  none_iff : answer = none ↔ ∃ x ∈ made, ¬x.IsAnswered
  good : ∀ a, answer = some a → Good a

theorem Served.done {a : Answer} {Good : Answer → Prop} (h : Good a) :
    Served reply past [] [] (some a) Good where
  carried := .done past
  none_iff := by simp
  good := by
    rintro _ ⟨⟩
    exact h

theorem Served.stopped (planned : List EngineCall) (Good : Answer → Prop)
    (hx : ¬(reply.exchange past question).IsAnswered) :
    Served reply past (question :: planned) [reply.exchange past question] none Good where
  carried := .stopped planned hx
  none_iff := ⟨fun _ ↦ ⟨_, List.mem_singleton_self _, hx⟩, fun _ ↦ rfl⟩
  good _ h := nomatch h

theorem Served.answered {Good : Answer → Prop}
    (h : Served reply (past ++ [reply.exchange past question]) planned made answer Good)
    (hx : (reply.exchange past question).IsAnswered) :
    Served reply past (question :: planned) (reply.exchange past question :: made) answer Good where
  carried := .answered hx h.carried
  none_iff := by
    simp only [h.none_iff, List.mem_cons, exists_eq_or_imp, not_not_intro hx, false_or]
  good := h.good

theorem Outcome.run_andThen {σ ε α β : Type} {first : StateM σ (Outcome ε α)}
    {o : Outcome ε α} {before after : σ} (h : first.run before = (o, after))
    (next : α → StateM σ (Outcome ε β)) :
    (Outcome.andThen first next).run before = (Outcome.andThen (pure o) next).run after := by
  rw [Outcome.andThen, StateT.run_bind, h]
  rfl

/-- A program carries out a plan, after whatever was asked before. -/
def Serves (reply : Replying) (planned : List EngineCall)
    (program : StateM (List Exchange) (Outcome EngineError Answer))
    (Good : List Exchange → Answer → Prop) : Prop :=
  ∀ past, ∃ outcome made, program.run past = (outcome, past ++ made) ∧
    Served reply past planned made outcome.value? (Good made)

variable {Good : List Exchange → Answer → Prop}

theorem Serves.done {a : Answer} (h : Good [] a) : Serves reply [] (pure (.value a)) Good :=
  fun past ↦ ⟨.value a, [], by rw [List.append_nil]; rfl, .done h⟩

/-- One more call in front: without a value the program ends there, and otherwise it goes on. -/
theorem Serves.andThen {α : Type} (x : Outcome EngineError α → Exchange)
    {first : StateM (List Exchange) (Outcome EngineError α)}
    {next : α → StateM (List Exchange) (Outcome EngineError Answer)}
    (hfirst : ∀ past, ∃ o, first.run past = (o, past ++ [x o]) ∧ reply.exchange past question = x o)
    (hanswered : ∀ o, (x o).IsAnswered ↔ ∃ v, o = .value v)
    (hnext : ∀ v, Serves reply planned (next v) fun made a ↦ Good (x (.value v) :: made) a) :
    Serves reply (question :: planned) (Outcome.andThen first next) Good := by
  intro past
  obtain ⟨o, ho, hx⟩ := hfirst past
  have hrun : (Outcome.andThen first next).run past =
      (Outcome.andThen (pure o) next).run (past ++ [reply.exchange past question]) :=
    Outcome.run_andThen (hx ▸ ho) next
  have hanswered := hx ▸ hanswered o
  cases o with
  | value v =>
    obtain ⟨outcome, made, hrest, hserved⟩ := hnext v (past ++ [reply.exchange past question])
    rw [← hx] at hserved
    refine ⟨outcome, reply.exchange past question :: made, ?_,
      hserved.answered (hanswered.mpr ⟨v, rfl⟩)⟩
    calc (Outcome.andThen first next).run past
        = (next v).run (past ++ [reply.exchange past question]) := hrun
      _ = (outcome, past ++ reply.exchange past question :: made) := by
        rw [hrest, List.append_assoc, List.singleton_append]
  | failed e =>
    exact ⟨.failed e, _, hrun, .stopped planned _ fun h ↦ nomatch hanswered.mp h⟩
  | broken p =>
    exact ⟨.broken p, _, hrun, .stopped planned _ fun h ↦ nomatch hanswered.mp h⟩

/-- Both kinds of requests begin with the same two calls. -/
theorem Serves.signatures {script : ScriptRequest}
    {next : List CallSignature → StateM (List Exchange) (Outcome EngineError Answer)}
    (hnext : ∀ found, Serves reply planned (next found) fun made a ↦
      Good (⟨.analyze script, .value ()⟩ :: ⟨.callSignatures script, .value found⟩ :: made) a) :
    Serves reply (.analyze script :: .callSignatures script :: planned)
      (Outcome.andThen ((recording reply).analyze script) fun _ ↦
        Outcome.andThen ((recording reply).callSignatures script) next) Good := by
  refine .andThen (⟨.analyze script, ·⟩) (fun _ ↦ ⟨_, rfl, rfl⟩) (fun _ ↦ Iff.rfl) fun _ ↦ ?_
  exact .andThen (⟨.callSignatures script, ·⟩) (fun _ ↦ ⟨_, rfl, rfl⟩) (fun _ ↦ Iff.rfl) hnext

end

/-! ## The whole of it -/

/-- What the analyzer is asked about a view. -/
def RequestContext.question (ctx : RequestContext) (env : ResolvedEnvironment) : ScriptRequest where
  source := ctx.source
  line := ctx.line + 1
  column := ctx.column
  path := ctx.path
  encoding := "utf-8"
  environment := env.environment
  searchPaths := env.searchPaths

/-- The calls that a request leads to if all of them are answered. -/
def RequestContext.plan (ctx : RequestContext) (env : ResolvedEnvironment) : List EngineCall :=
  let script := ctx.question env
  match ctx.request with
  | .autocomplete fuzzy => [.analyze script, .callSignatures script, .completions script fuzzy]
  | .funcArgs _ => [.analyze script, .callSignatures script]

/-- What a request is answered with, by the notes of the calls that were made for it. -/
inductive AnsweredWith (made : List Exchange) : Request → Answer → Prop
  | completions {script : ScriptRequest} {fuzzy : Bool} {signatures : List CallSignature}
      {found : List Completion} (hsignatures : ⟨.callSignatures script, .value signatures⟩ ∈ made)
      (hfound : ⟨.completions script fuzzy, .value found⟩ ∈ made) :
      AnsweredWith made (.autocomplete fuzzy) <| .completions <| firstOfEach <|
        parameterEntries true signatures ++ found.map fun c ↦ ⟨c.name ++ "\t" ++ c.kind, c.name⟩
  | template {script : ScriptRequest} {all : Bool} {signatures : List CallSignature}
      (hsignatures : ⟨.callSignatures script, .value signatures⟩ ∈ made) :
      AnsweredWith made (.funcArgs all) <| .template <|
        String.intercalate ", " ((parameterEntries all signatures).map (·.insertText))

theorem script_eq {ctx : RequestContext} (hline : ctx.line < 0xFFFFFFFFFFFFFFFF)
    (env : ResolvedEnvironment) : ctx.script env = ctx.question env := by
  have hline : engineLine ctx.line = ctx.line + 1 := Nat.mod_eq_of_lt (by omega)
  rw [RequestContext.script, RequestContext.question, hline]
  rfl

private theorem map_eq_andThen {m : Type → Type} [Monad m] [LawfulMonad m] {ε α β : Type}
    (first : m (Outcome ε α)) (f : α → β) :
    (do return (← first).map f) = Outcome.andThen first fun v ↦ pure (.value (f v)) := by
  rw [Outcome.andThen]
  refine congrArg (first >>= ·) (funext fun o ↦ ?_)
  cases o <;> rfl

theorem ask_serves (reply : Replying) (env : ResolvedEnvironment) {ctx : RequestContext}
    (hline : ctx.line < 0xFFFFFFFFFFFFFFFF) :
    Serves reply (ctx.plan env) (ask (recording reply) env ctx) fun made a ↦
      AnsweredWith made ctx.request a := by
  rw [ask, script_eq hline, RequestContext.plan]
  cases hrequest : ctx.request with
  | autocomplete fuzzy =>
    refine .signatures fun signatures ↦ ?_
    dsimp only
    rw [map_eq_andThen]
    refine .andThen (⟨.completions (ctx.question env) fuzzy, ·⟩) (fun _ ↦ ⟨_, rfl, rfl⟩)
      (fun _ ↦ Iff.rfl) fun found ↦ .done ?_
    rw [callEntries_eq, dedupByInsertText_eq]
    exact .completions (.tail _ (.head _)) (.tail _ (.tail _ (.head _)))
  | funcArgs all =>
    refine .signatures fun signatures ↦ .done ?_
    rw [callEntries_eq]
    exact .template (.tail _ (.head _))

/-- **What one request does.** An analyzer that replies as it likes is put the planned calls, with
lines counted from one, up to the first call that is not answered. Exactly if there is such a call
the request has no answer. Otherwise the answer consists of what was replied. -/
theorem execute_carried (reply : Replying) (env : ResolvedEnvironment) (ctx : RequestContext)
    (hline : ctx.line < 0xFFFFFFFFFFFFFFFF) (past : List Exchange) :
    ∃ answer made, (execute (recording reply) env ctx).run past = (answer, past ++ made) ∧
      Carried reply past (ctx.plan env) made ∧
      (answer = none ↔ ∃ x ∈ made, ¬x.IsAnswered) ∧
      ∀ a, answer = some a → AnsweredWith made ctx.request a := by
  obtain ⟨outcome, made, hrun, hserved⟩ := ask_serves reply env hline past
  refine ⟨outcome.value?, made, ?_, hserved.carried, hserved.none_iff, hserved.good⟩
  rw [execute, StateT.run_bind, hrun]
  rfl

/-- An analyzer that finds the call of a function of two parameters around the cursor, and breaks
down if it is asked for completions. -/
def twoParameters : Replying := fun _ question ↦
  match question with
  | .defaultEnvironment | .createEnvironment _ => .failed (.environment "none")
  | .analyze _ => .value ()
  | .callSignatures _ =>
    .value [⟨"f", [⟨"a", .positionalOrKeyword, none⟩, ⟨"b", .keywordOnly, some " 1"⟩]⟩]
  | .completions _ _ => .broken .unreadable

def parametersOfCall : RequestContext := ⟨none, "f(", 41, 2, .funcArgs true⟩

/-- Completions are not asked for where only the parameters are wanted, so nothing breaks down. -/
theorem execute_twoParameters :
    parametersOfCall.line < 0xFFFFFFFFFFFFFFFF ∧
      ∃ made, (execute (recording twoParameters) ⟨⟨"python", []⟩, []⟩ parametersOfCall).run [] =
          (some (.template "$\x7b1:a\x7d, b=$\x7b2:1\x7d"), made) ∧
        Carried twoParameters [] (parametersOfCall.plan ⟨⟨"python", []⟩, []⟩) made ∧
        AnsweredWith made (.funcArgs true) (.template "$\x7b1:a\x7d, b=$\x7b2:1\x7d") := by
  obtain ⟨answer, made, hrun, hcarried, -, hgood⟩ :=
    execute_carried twoParameters ⟨⟨"python", []⟩, []⟩ parametersOfCall (by decide) []
  have hanswer : answer = some (.template "$\x7b1:a\x7d, b=$\x7b2:1\x7d") :=
    (congrArg Prod.fst hrun).symm.trans (by decide)
  subst hanswer
  exact ⟨by decide, made, hrun, hcarried, hgood _ rfl⟩

end CodeHints
