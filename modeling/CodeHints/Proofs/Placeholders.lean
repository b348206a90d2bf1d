import CodeHints.Proofs.Answering

/-!
# The numbers of placeholders

A list of completions begins with the parameters of the innermost call, and a template consists of
the same parameters. Entries that insert the same text as one further to the front are left out of
the list, but not out of the template. So the two only agree if no two parameters insert the same
text.

Every parameter has a number of its own, and from what is inserted for a parameter its number can be
read back (`Parameter.number_eq_of_snippet_eq`), whatever its default is. To find the place where
the number stands, one has to tell a parameter with a default from one without, and to know where
the name ends. This is why a name is taken to have neither `$` nor `=` in it
(`Parameter.IsPlain`).

Main result: `execute_beginsWithTemplate`.
-/

namespace CodeHints

/-! ## Reading a number back -/

/-- A mark that is not in the front parts of two texts separates them at the same place. -/
private theorem eq_of_append_mark_eq {mark : Char} {front front' back back' : List Char}
    (hfront : mark ∉ front) (hfront' : mark ∉ front')
    (h : front ++ mark :: back = front' ++ mark :: back') : front = front' ∧ back = back' := by
  have hcut {l m : List Char} (hl : mark ∉ l) : (l ++ mark :: m).takeWhile (· ≠ mark) = l := by
    rw [List.takeWhile_append_of_pos fun c hc ↦ decide_eq_true (ne_of_mem_of_not_mem hc hl),
      List.takeWhile_cons_of_neg (by simp), List.append_nil]
  obtain rfl : front = front' := by rw [← hcut hfront, h, hcut hfront']
  exact ⟨rfl, (List.cons.inj (List.append_cancel_left h)).2⟩

private theorem placeholder_toList (number : Nat) (text : String) :
    (placeholder number text).toList =
      "$\x7b".toList ++ (Nat.toDigits 10 number ++ ':' :: (text.toList ++ "\x7d".toList)) := by
  rw [placeholder, Nat.toString_eq_ofList_toDigits]
  simp

theorem number_eq_of_placeholder_eq {i j : Nat} {text text' : String}
    (h : placeholder i text = placeholder j text') : i = j := by
  have hcolon (n : Nat) : ':' ∉ Nat.toDigits 10 n := fun hc ↦
    absurd (Nat.isDigit_of_mem_toDigits (by decide) (by decide) hc) (by decide)
  have hlist := congrArg String.toList h
  rw [placeholder_toList, placeholder_toList] at hlist
  have hdigits := (eq_of_append_mark_eq (hcolon i) (hcolon j) (List.append_cancel_left hlist)).1
  calc i = Nat.ofDigitChars 10 (Nat.toDigits 10 i) 0 := Nat.ofDigitChars_ten_toDigits.symm
    _ = Nat.ofDigitChars 10 (Nat.toDigits 10 j) 0 := by rw [hdigits]
    _ = j := Nat.ofDigitChars_ten_toDigits

/-- The name of a parameter has no character that is of significance for a placeholder. -/
def Parameter.IsPlain (p : Parameter) : Prop := '$' ∉ p.name.toList ∧ '=' ∉ p.name.toList

instance (p : Parameter) : Decidable p.IsPlain := inferInstanceAs (Decidable (_ ∧ _))

/-- A parameter that has a default begins with its name, so that it does not look like one that has
none. -/
private theorem placeholder_ne_named {p : Parameter} (h : p.IsPlain) (i j : Nat)
    (text value : String) : placeholder i text ≠ p.name ++ "=" ++ placeholder j value := by
  intro heq
  have hlist := congrArg String.toList heq
  rw [placeholder_toList, String.toList_append, String.toList_append, List.append_assoc] at hlist
  cases hname : p.name.toList with
  | nil => simp [hname] at hlist
  | cons c rest =>
    rw [hname] at hlist
    have hc : '$' = c := (List.cons.inj hlist).1
    exact h.1 (by rw [hname, hc]; exact .head rest)

theorem Parameter.number_eq_of_snippet_eq {p q : Parameter} (hp : p.IsPlain) (hq : q.IsPlain)
    {i j : Nat} (h : p.snippet i = q.snippet j) : i = j := by
  rw [snippet, snippet] at h
  cases hpdefault : p.default with
  | none =>
    cases hqdefault : q.default with
    | none =>
      rw [hpdefault, hqdefault] at h
      exact number_eq_of_placeholder_eq h
    | some other =>
      rw [hpdefault, hqdefault] at h
      exact absurd h (placeholder_ne_named hq i j p.name (trimStart other))
  | some value =>
    cases hqdefault : q.default with
    | none =>
      rw [hpdefault, hqdefault] at h
      exact absurd h.symm (placeholder_ne_named hp j i q.name (trimStart value))
    | some other =>
      rw [hpdefault, hqdefault] at h
      have hlist : p.name.toList ++ '=' :: (placeholder i (trimStart value)).toList =
          q.name.toList ++ '=' :: (placeholder j (trimStart other)).toList := by
        simpa [placeholder] using congrArg String.toList h
      exact number_eq_of_placeholder_eq
        (String.toList_injective (eq_of_append_mark_eq hp.2 hq.2 hlist).2)

/-- With other names the number may be lost. -/
example : Parameter.snippet 1 ⟨"=$\x7b2:v", .keywordOnly, none⟩ =
    Parameter.snippet 2 ⟨"$\x7b1:", .keywordOnly, some "v"⟩ := by decide

/-- No two entries for the parameters of a call insert the same text. -/
theorem parameterEntries_nodup (all : Bool) {signatures : List CallSignature}
    (h : ∀ s ∈ signatures.head?, ∀ p ∈ s.params, p.IsPlain) :
    ((parameterEntries all signatures).map (·.insertText)).Nodup := by
  rw [parameterEntries]
  cases hhead : signatures.head? with
  | none => exact List.nodup_nil
  | some s =>
    have hplain : ∀ p ∈ s.offered all, p.IsPlain := by
      intro p hp
      rw [CallSignature.offered] at hp
      have hp := (List.mem_filter.mp hp).1
      cases all with
      | false => exact h s hhead p ((List.takeWhile_sublist _).mem hp)
      | true => exact h s hhead p hp
    refine List.pairwise_map.mpr (List.pairwise_iff_getElem.mpr fun i j hi hj hlt heq ↦ ?_)
    rw [List.getElem_mapIdx, List.getElem_mapIdx] at heq
    have hsame := Parameter.number_eq_of_snippet_eq (hplain _ (List.getElem_mem _))
      (hplain _ (List.getElem_mem _)) heq
    omega

/-! ## Requests that are answered -/

/-- An analyzer always answers what it is asked about a script. The innermost call that it finds
there is always the same, if there is one. -/
structure Replying.Answers (reply : Replying) (script : ScriptRequest)
    (innermost : Option CallSignature) : Prop where
  analyze : ∀ past, ∃ analyzed, reply past (.analyze script) = .value analyzed
  callSignatures : ∀ past, ∃ found,
    reply past (.callSignatures script) = .value found ∧ found.head? = innermost
  completions : ∀ past fuzzy, ∃ found, reply past (.completions script fuzzy) = .value found

section

variable {reply : Replying} {env : ResolvedEnvironment} {ctx : RequestContext}
  {script : ScriptRequest} {innermost : Option CallSignature}

/-- Every request begins with the same two calls. -/
private theorem run_signatures (h : reply.Answers script innermost) (past : List Exchange)
    (next : List CallSignature → StateM (List Exchange) (Outcome EngineError Answer)) :
    ∃ found made, found.head? = innermost ∧
      (Outcome.andThen ((recording reply).analyze script) fun _ ↦
        Outcome.andThen ((recording reply).callSignatures script) next).run past =
      (next found).run (past ++ made) := by
  obtain ⟨analyzed, hanalyzed⟩ := h.analyze past
  let past' := past ++ [reply.exchange past (.analyze script)]
  obtain ⟨found, hfound, hhead⟩ := h.callSignatures past'
  have hanalyze : ((recording reply).analyze script).run past = (.value analyzed, past') :=
    Prod.ext hanalyzed rfl
  have hsignatures : ((recording reply).callSignatures script).run past' =
      (.value found, past' ++ [reply.exchange past' (.callSignatures script)]) :=
    Prod.ext hfound rfl
  refine ⟨found, [reply.exchange past (.analyze script),
    reply.exchange past' (.callSignatures script)], hhead, ?_⟩
  calc _ = (Outcome.andThen ((recording reply).callSignatures script) next).run past' :=
        Outcome.run_andThen hanalyze _
    _ = (next found).run (past' ++ [reply.exchange past' (.callSignatures script)]) :=
        Outcome.run_andThen hsignatures next
    _ = _ := by
      rw [List.append_assoc]
      rfl

private theorem callEntries_of_head? {found : List CallSignature}
    (h : found.head? = innermost) :
    callEntries true true found = parameterEntries true innermost.toList := by
  rw [callEntries_eq, parameterEntries, parameterEntries, h, Option.head?_toList]

private theorem run_funcArgs (ctx : RequestContext)
    (h : reply.Answers (ctx.script env) innermost) (hrequest : ctx.request = .funcArgs true)
    (past : List Exchange) :
    ∃ made, (execute (recording reply) env ctx).run past =
      (some (.template (templateOf (parameterEntries true innermost.toList))), past ++ made) := by
  obtain ⟨found, made, hhead, hrun⟩ := run_signatures h past fun found ↦
    pure (.value (.template (templateOf (callEntries true true found))))
  refine ⟨made, ?_⟩
  rw [execute, StateT.run_bind, ask, hrequest, hrun, callEntries_of_head? hhead]
  rfl

private theorem run_autocomplete (ctx : RequestContext) {fuzzy : Bool}
    (h : reply.Answers (ctx.script env) innermost) (hrequest : ctx.request = .autocomplete fuzzy)
    (past : List Exchange) :
    ∃ found made, (execute (recording reply) env ctx).run past =
        (some (.completions (dedupByInsertText
          (parameterEntries true innermost.toList ++ found.map (·.entry)))), past ++ made) ∧
      ⟨.completions (ctx.script env) fuzzy, .value found⟩ ∈ made := by
  obtain ⟨signatures, made, hhead, hrun⟩ := run_signatures h past fun signatures ↦ do
    return (← (recording reply).completions (ctx.script env) fuzzy).map fun found ↦
      .completions (dedupByInsertText (callEntries true true signatures ++ found.map (·.entry)))
  obtain ⟨found, hfound⟩ := h.completions (past ++ made) fuzzy
  have hcompletions : ((recording reply).completions (ctx.script env) fuzzy).run (past ++ made) =
      (.value found,
        past ++ made ++ [reply.exchange (past ++ made) (.completions (ctx.script env) fuzzy)]) :=
    Prod.ext hfound rfl
  refine ⟨found, made ++ [reply.exchange (past ++ made) (.completions (ctx.script env) fuzzy)],
    ?_, List.mem_append_right _ (List.mem_singleton.mpr ?_)⟩
  · rw [execute, StateT.run_bind, ask, hrequest, hrun, callEntries_of_head? hhead,
      StateT.run_bind, hcompletions, List.append_assoc]
    rfl
  · rw [Replying.exchange, hfound]

/-- **A list of completions begins with the template.** If an analyzer answers everything that it
is asked about a script, the completions begin with one entry for each parameter of the innermost
call that is offered, numbered from one, and the texts that these insert make up the template of all
parameters of the call. The texts differ from each other. The rest of the list are the completions
that the analyzer found, without those that would insert one of these texts. -/
theorem execute_beginsWithTemplate (hanswers : reply.Answers (ctx.script env) innermost)
    (hplain : ∀ s ∈ innermost, ∀ p ∈ s.params, p.IsPlain) (fuzzy : Bool)
    (past past' : List Exchange) :
    let calls := parameterEntries true innermost.toList
    let texts := calls.map (·.insertText)
    (∃ found made,
      (execute (recording reply) env { ctx with request := .autocomplete fuzzy }).run past =
        (some (.completions (calls ++
          (firstOfEach (found.map (·.entry))).filter (·.insertText ∉ texts))), past ++ made) ∧
      ⟨.completions (ctx.script env) fuzzy, .value found⟩ ∈ made) ∧
    (∃ made, (execute (recording reply) env { ctx with request := .funcArgs true }).run past' =
      (some (.template (String.intercalate ", " texts)), past' ++ made)) ∧
    texts.Nodup := by
  intro calls texts
  have hnodup : texts.Nodup := parameterEntries_nodup true (by rwa [Option.head?_toList])
  refine ⟨?_, run_funcArgs { ctx with request := .funcArgs true } hanswers rfl past', hnodup⟩
  obtain ⟨found, made, hrun, hfound⟩ :=
    run_autocomplete { ctx with request := .autocomplete fuzzy } hanswers rfl past
  refine ⟨found, made, ?_, hfound⟩
  rw [hrun, dedupByInsertText_append, dedupByInsertText_of_nodup hnodup, dedupByInsertText_eq]

end

/-- A call of a method with two parameters. The default of the second one is a placeholder. -/
def callOfMethod : CallSignature :=
  ⟨"f", [⟨"self", .positionalOnly, none⟩, ⟨"a", .positionalOrKeyword, none⟩,
    ⟨"b", .keywordOnly, some " $\x7b1:a\x7d"⟩]⟩

/-- An analyzer that finds this call around the cursor, and completes it by what is also inserted
for the first parameter. -/
def completesPlaceholder : Replying := fun _ question ↦
  match question with
  | .defaultEnvironment | .createEnvironment _ => .failed (.environment "none")
  | .analyze _ => .value ()
  | .callSignatures _ => .value [callOfMethod]
  | .completions _ _ => .value [⟨"$\x7b1:a\x7d", "statement"⟩, ⟨"abs", "function"⟩]

/-- The completion that is inserted like the first parameter is left out. -/
theorem execute_completesPlaceholder :
    completesPlaceholder.Answers (parametersOfCall.script ⟨⟨"python", []⟩, []⟩)
        (some callOfMethod) ∧
      (∀ s ∈ some callOfMethod, ∀ p ∈ s.params, p.IsPlain) ∧
      (∃ made, (execute (recording completesPlaceholder) ⟨⟨"python", []⟩, []⟩
          { parametersOfCall with request := .autocomplete false }).run [] =
        (some (.completions [⟨"a\tparam", "$\x7b1:a\x7d"⟩,
          ⟨"b\tparam", "b=$\x7b2:$\x7b1:a\x7d\x7d"⟩, ⟨"abs\tfunction", "abs"⟩]), made)) ∧
      ∃ made, (execute (recording completesPlaceholder) ⟨⟨"python", []⟩, []⟩
          { parametersOfCall with request := .funcArgs true }).run [] =
        (some (.template "$\x7b1:a\x7d, b=$\x7b2:$\x7b1:a\x7d\x7d"), made) := by
  have hanswers : completesPlaceholder.Answers
      (parametersOfCall.script ⟨⟨"python", []⟩, []⟩) (some callOfMethod) :=
    { analyze := fun _ ↦ ⟨_, rfl⟩
      callSignatures := fun _ ↦ ⟨_, rfl, rfl⟩
      completions := fun _ _ ↦ ⟨_, rfl⟩ }
  have hplain : ∀ s ∈ some callOfMethod, ∀ p ∈ s.params, p.IsPlain := by decide
  obtain ⟨⟨found, made, hrun, -⟩, ⟨made', htemplate⟩, -⟩ :=
    execute_beginsWithTemplate hanswers hplain false [] []
  refine ⟨hanswers, hplain, ⟨made, hrun.trans (congrArg (·, made) ?_)⟩, made', htemplate.trans ?_⟩
  · exact (congrArg Prod.fst hrun).symm.trans (by decide)
  · exact congrArg (·, made') ((congrArg Prod.fst htemplate).symm.trans (by decide))

end CodeHints
