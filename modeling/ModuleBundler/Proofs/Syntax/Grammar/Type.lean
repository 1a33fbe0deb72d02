/-
ModuleBundler/Proofs/Syntax/Grammar/Type.lean

The names in a type come from the tokens that are taken for it.
-/
import ModuleBundler.Proofs.Syntax.Grammar.Function
import ModuleBundler.Syntax.Grammar.Type

namespace ModuleBundler.Grammar

open Parse

variable {g : Grammar} {X : List Span}

attribute [local simp] List.count_cons

/-! ### Pieces -/

@[simp] theorem sitesOf_word (s : String) : sitesOf (word s) = [] := rfl

@[simp] theorem sitesOf_joined (between : String) (ps : List Pieces) :
    sitesOf (joined between ps) = sitesOf ps := by
  unfold joined
  induction ps with
  | nil => rfl
  | cons p ps ih =>
      cases ps with
      | nil => simp
      | cons q ps =>
          rw [List.intersperse_cons_cons, List.flatten_cons, List.flatten_cons, sitesOf_append,
            sitesOf_append, ih]
          simp

theorem sitesOf_parameterPiece (p : Pattern) : sitesOf (parameterPiece p) = [] := by
  unfold parameterPiece
  split <;> rfl

@[simp] theorem sitesOf_parameterPieces (items : List Pattern) (rest : Option Pattern) :
    sitesOf (parameterPieces items rest) = [] := by
  have hitems : sitesOf (items.map parameterPiece) = [] := by
    induction items with
    | nil => rfl
    | cons p items ih => simp [sitesOf_parameterPiece, ih]
  have hrest : sitesOf (rest.toList.map fun p => word "..." ++ parameterPiece p) = [] := by
    cases rest <;> simp [sitesOf_parameterPiece]
  simp [parameterPieces, hitems, hrest]

theorem traces_rawPiece : Traces X rawPiece := .skip traces_take fun t => .pure fun s => by simp

/-! ### Angle brackets -/

/-- The bracket begins where the punctuator does. -/
theorem traces_splitAngle : Traces X splitAngle := by
  rintro c hc a c' hok
  have hreach : c.Reaches [] c' ∧ c'.waiting = c.waiting := by
    cases hok
    dsimp only
    split
    · rename_i hkind hraw
      split
      · exact ⟨.refl hc, rfl⟩
      · refine ⟨.again hc rfl rfl ⟨rfl, Nat.le_refl _⟩ ?_ (fun _ => List.cons_ne_nil _ _) ?_ rfl id,
          rfl⟩
        · simp [hkind]
        · have hstop := hc.stop_eq
          have := hc.stop_le
          rw [hraw] at hstop
          simp only [Cursor.horizon, Cursor.place, List.length_append, List.length_cons] at *
          omega
    · exact ⟨.refl hc, rfl⟩
  refine ⟨[], hreach.1, fun _ s => ?_⟩
  rw [hreach.2]
  simp

theorem Traced.typeArguments (hg : g.Traced) : Traces [] g.typeArguments := by
  have hitem : Traces [] (do
      let t ← g.type
      splitAngle
      return t) :=
    .bind hg.type fun t => .skip traces_splitAngle fun _ => .pure fun s => by simp
  refine .skip (traces_expect _) fun _ => .skip traces_splitAngle fun _ => ?_
  refine .bind (hitem.separated _) fun r => ?_
  obtain ⟨items, comma⟩ := r
  refine .look (looks_sees _) fun b => .refuse fails_unexpected ?_
  exact .skip (traces_expect _) fun _ => .pure fun s => by simp

theorem Traced.typeArgumentsOption (hg : g.Traced) : Traces [] g.typeArguments? := by
  refine .look (looks_sees _) fun b => .ite (fun _ => hg.typeArguments) fun _ => ?_
  exact .pure (Among.nil _)

/-! ### Names -/

theorem traces_typeName : Traces [] typeName := by
  refine .bind traces_identifierName fun first => .mono (.repeating (fun taken => ?_) _) ?_
  · refine .skip (traces_eat _) fun b => .ite (fun _ => ?_) fun _ => .pure fun s => by simp
    exact .skip traces_identifierName fun id => .pure fun s => by simp
  · exact fun s => by simp

theorem traces_entityName : Traces [] entityName := by
  refine .skip traces_bindingIdentifier fun id => .mono (.repeating (fun _ => ?_) ()) ?_
  · refine .skip (traces_eat _) fun b => .ite (fun _ => ?_) fun _ => .pure fun s => by simp
    exact .skip traces_identifierName fun id => .pure fun s => by simp
  · exact Among.nil _

theorem Traced.typeReference (hg : g.Traced) : Traces [] g.typeReference := by
  refine .bind traces_typeName fun name => .look looks_token fun t => ?_
  refine .ite (fun _ => .pure fun s => by simp) fun _ => ?_
  exact .bind hg.typeArgumentsOption fun args => .pure fun s => by simp; omega

/-! ### Functions -/

theorem looks_seesParameters : Looks g.seesParameters := looks_foresees _

theorem looks_seesFunctionType : Looks g.seesFunctionType := by
  refine looks_token.bind fun t => .ite (.pure _) (.ite ?_ (.ite looks_seesParameters (.pure _)))
  exact looks_peek.bind fun next => .pure _

theorem Traced.resultType (hg : g.Traced) : Traces [] g.resultType := by
  refine .lookToken fun c hc => .look looks_peek fun next _ => ?_
  refine .ite (fun h => ?_) fun _ => hg.type hc
  have hbinding := (Bool.and_eq_true_iff.1 (Bool.and_eq_true_iff.1 h).1).1
  refine (tracesAt_takeIdent hc (isSolid_of_isBinding hbinding)).bindOf (Z := []) (Among.refl _) ?_
  intro id c₁ _ hc₁
  have hrest : Traces (sitesOf id ++ []) (do
      let _ ← take
      return .name id :: word " is " ++ (← g.type)) := by
    refine .skip traces_take fun _ => .bind hg.type fun t => .pure fun s => by simp
  exact hrest hc₁

theorem Traced.functionType (hg : g.Traced) : Traces [] g.functionType := by
  refine .skip (traces_eatWord _) fun isAbstract => .skip (traces_eatWord _) fun isNew => ?_
  refine .skip (hg.params _ _) fun r => ?_
  obtain ⟨paramsSpan, items, rest⟩ := r
  refine .skip (traces_expect _) fun _ => .bind hg.resultType fun t => ?_
  exact .pure fun s => by simp

/-! ### Members -/

theorem Traced.typeMember (hg : g.Traced) : Traces [] g.typeMember := by
  unfold Grammar.typeMember
  extract_lets signature member
  have hsignature : Traces [] signature := by
    refine .skip (hg.params _ _) fun r => ?_
    obtain ⟨paramsSpan, items, rest⟩ := r
    exact .pure fun s => by simp
  have hmember : Traces [] member := by
    refine .look looks_token fun t => .ite (fun _ => hsignature) fun _ => ?_
    refine .look looks_peek fun next => .ite (fun _ => ?_) fun _ => ?_
    · exact .skip traces_take fun _ => .bind hsignature fun m => .pure fun s => by simp
    · refine .skip (traces_modifiers _) fun words => .skip (.forIn (fun w _ => ?_) _ _) fun _ => ?_
      · refine .ite (fun _ => .pure (Among.nil _)) fun _ => ?_
        exact .skip (traces_note _) fun _ => .pure (Among.nil _)
      · refine .skip traces_accessorWord fun accessor => .skip hg.key fun k => ?_
        extract_lets name
        have hname : sitesOf name = [] := by cases k <;> rfl
        refine .skip (traces_eat _) fun optional => .look (looks_sees _) fun b => ?_
        refine .look (looks_sees _) fun b' => .ite (fun _ => ?_) fun _ => ?_
        · refine .bind hsignature fun m => .pure fun s => ?_
          rw [sitesOf_append, sitesOf_append, hname]
          simp
        · refine .pure fun s => ?_
          rw [sitesOf_append, hname]
          simp
  refine .bind hmember fun m => .skip (traces_eat _) fun b => ?_
  have hm : Traces (sitesOf m ++ []) (pure m : Parse Pieces) := .pure fun s => by simp
  exact .ite (fun _ => hm) fun _ => .skip (traces_eat _) fun _ => hm

theorem Traced.typeMembers (hg : g.Traced) : Traces [] g.typeMembers := by
  refine .skip (traces_expect _) fun _ => .bind (.repeating (fun taken => ?_) []) fun members => ?_
  · refine .look looks_token fun t => .ite (fun _ => .pure fun s => by simp) fun _ => ?_
    exact .bind hg.typeMember fun m => .pure fun s => by simp
  · exact .skip (traces_expect _) fun _ => .pure fun s => by simp

theorem looks_seesMapped : Looks seesMapped := looks_foresees _

theorem Traced.mappedType (hg : g.Traced) : Traces [] g.mappedType := by
  refine .skip traces_take fun _ => ?_
  extract_lets sign
  have hsign : Traces [] sign := by
    refine .skip (traces_eat _) fun b => .ite (fun _ => .pure (Among.nil _)) fun _ => ?_
    exact .skip (traces_eat _) fun _ => .pure (Among.nil _)
  refine .skip hsign fun _ => .skip (traces_eatWord _) fun _ => ?_
  refine .skip (traces_expect _) fun _ => traces_takeIdent_bind fun k => ?_
  refine .skip (traces_expectWord _) fun _ => .bind hg.type fun keys => ?_
  refine .skip (traces_eatWord _) fun b => .join (.map hg.type fun t s => by simp)
    (.pure (Among.nil _)) fun renamed => ?_
  refine .skip (traces_expect _) fun _ => .skip hsign fun _ => ?_
  refine .skip (traces_eat _) fun _ => .skip (traces_eat _) fun _ => ?_
  exact .skip (traces_expect _) fun _ => .pure fun s => by simp; omega

/-! ### Tuples and templates -/

theorem Traced.tupleElement (hg : g.Traced) : Traces [] g.tupleElement := by
  refine .look (looks_foresees _) fun named => .skip (traces_eat _) fun spread => ?_
  refine .ite (fun _ => ?_) fun _ => .bind hg.type fun t => .pure fun s => by simp
  refine .skip traces_identifierName fun id => .skip (traces_eat _) fun optional => ?_
  refine .skip (traces_expect _) fun _ => .bind hg.type fun t => .pure fun s => by simp

theorem Traced.tupleType (hg : g.Traced) : Traces [] g.tupleType := by
  refine .skip (traces_expect _) fun _ => .bind (hg.tupleElement.separated _) fun r => ?_
  obtain ⟨items, comma⟩ := r
  exact .skip (traces_expect _) fun _ => .pure fun s => by simp

theorem Traced.templateType (hg : g.Traced) : Traces [] g.templateType := by
  refine .bind traces_rawPiece fun head => .mono (.repeating (fun taken => ?_) head) ?_
  · refine .bind hg.type fun t => .skip traces_continueTemplate fun _ => ?_
    refine .look looks_token fun next => ?_
    split
    · exact .bind traces_rawPiece fun p => .pure fun s => by simp; omega
    · exact .bind traces_rawPiece fun p => .pure fun s => by simp; omega
    · exact .of_fails fails_unexpected
  · exact fun s => by simp

theorem Traced.importType (hg : g.Traced) : Traces [] g.importType := by
  refine .skip traces_takeWord fun _ => .skip (traces_expect _) fun _ => ?_
  refine .bind hg.type fun source => .skip (traces_eat _) fun b => ?_
  extract_lets rest
  have hrest : ∀ r, Traces (sitesOf source ++ []) (rest r) := by
    refine fun _ => .skip (traces_expect _) fun _ => .bind (.repeating (fun taken => ?_) []) ?_
    · refine .skip (traces_eat _) fun b => .ite (fun _ => ?_) fun _ => .pure fun s => by simp
      exact .skip traces_identifierName fun id => .pure fun s => by simp
    · exact fun name => .bind hg.typeArgumentsOption fun args => .pure fun s => by simp; omega
  have hcomma : Traces (sitesOf source ++ []) (eat "," >>= fun _ => rest ()) :=
    .skip (traces_eat _) fun _ => hrest ()
  refine .ite (fun _ => .look (looks_sees _) fun b => ?_) fun _ => hrest ()
  exact .ite (fun _ => hcomma) fun _ => .skip hg.assignment.withIn fun _ => hcomma

/-! ### Types without operators -/

theorem Traced.wordType (hg : g.Traced) : Traces [] g.wordType := by
  refine .look looks_token fun t => .look looks_peek fun next => ?_
  refine .ite (fun _ => traces_rawPiece) fun _ => ?_
  split
  · exact traces_rawPiece
  · exact traces_rawPiece
  · exact traces_rawPiece
  · exact traces_rawPiece
  · refine .bind traces_rawPiece fun self => .look (looks_seesWord _) fun b => ?_
    refine .look looks_token fun t => .ite (fun _ => ?_) fun _ => .pure fun s => by simp
    exact .skip traces_take fun _ => .bind hg.type fun t => .pure fun s => by simp; omega
  · refine .skip traces_take fun _ => .look (looks_seesWord _) fun b => ?_
    refine .ite (fun _ => ?_) fun _ => ?_
    · exact .bind hg.importType fun t => .pure fun s => by simp
    · exact .bind hg.typeReference fun t => .pure fun s => by simp
  · exact hg.importType
  · refine .ite (fun _ => ?_) fun _ => hg.typeReference
    refine .skip traces_take fun _ => .look (looks_seesWord _) fun b => ?_
    refine .join traces_rawPiece traces_typeName fun subject => ?_
    refine .skip (traces_eatWord _) fun b => .ite (fun _ => ?_) fun _ => .pure fun s => by simp
    exact .bind hg.type fun t => .pure fun s => by simp; omega
  · exact hg.typeReference

theorem Traced.primaryType (hg : g.Traced) : Traces [] g.primaryType := by
  refine .look looks_token fun t => ?_
  split
  · exact traces_rawPiece
  · exact traces_rawPiece
  · exact traces_rawPiece
  · exact hg.templateType
  · exact hg.wordType
  · split
    · refine .look looks_peek fun next => .ite (fun _ => ?_) fun _ => .of_fails fails_unexpected
      exact .bind traces_rawPiece fun sign => .bind traces_rawPiece fun p =>
        .pure fun s => by simp; omega
    · exact .look looks_seesMapped fun b => .ite (fun _ => hg.mappedType) fun _ => hg.typeMembers
    · exact hg.tupleType
    · refine .skip traces_take fun _ => .bind (hg.type.within _) fun inner => ?_
      exact .skip (traces_expect _) fun _ => .pure fun s => by simp
    · refine .skip traces_take fun _ => .look looks_token fun t => ?_
      refine .ite (fun _ => .pure fun s => by simp) fun _ => ?_
      exact .bind hg.type fun t => .pure fun s => by simp
    · exact .skip traces_take fun _ => .bind hg.type fun t => .pure fun s => by simp
    · exact .of_fails fails_unexpected
  · exact .of_fails fails_unexpected

/-! ### Operators -/

theorem Traced.postfixType (hg : g.Traced) : Traces [] g.postfixType := by
  refine .bind hg.primaryType fun t => .mono (.repeating (fun taken => ?_) t) ?_
  · refine .look looks_token fun t => .ite (fun _ => .pure fun s => by simp) fun _ => ?_
    refine .ite (fun _ => ?_) fun _ => .ite (fun _ => ?_) fun _ => .ite (fun _ => ?_) fun _ => ?_
    · exact .bind traces_rawPiece fun p => .pure fun s => by simp; omega
    · refine .look looks_peek fun next => .ite (fun _ => .pure fun s => by simp) fun _ => ?_
      exact .bind traces_rawPiece fun p => .pure fun s => by simp; omega
    · refine .skip traces_take fun _ => .skip (traces_eat _) fun b => ?_
      refine .ite (fun _ => .pure fun s => by simp) fun _ => .bind hg.type fun key => ?_
      exact .skip (traces_expect _) fun _ => .pure fun s => by simp; omega
    · exact .pure fun s => by simp
  · exact fun s => by simp

theorem Traced.inferredBound (hg : g.Traced) : Traces [] g.inferredBound := by
  refine .attempt (.skip (traces_eatWord _) fun b => .ite (fun _ => ?_) fun _ => ?_)
  · refine .bind (hg.type.within _) fun bound => .look looks_allowed fun a => ?_
    refine .look (looks_sees _) fun b => .ite (fun _ => ?_) fun _ => .pure (Among.nil _)
    exact .pure fun s => by simp
  · exact .pure (Among.nil _)

theorem Traced.operatorType (hg : g.Traced) : Traces [] g.operatorType := by
  refine .repeating (fun taken => ?_) []
  refine .look looks_token fun t => .ite (fun _ => ?_) fun _ => .ite (fun _ => ?_) fun _ => ?_
  · exact .skip traces_takeWord fun _ => .pure fun s => by simp
  · refine .skip traces_takeWord fun _ => .skip traces_bindingIdentifier fun id => ?_
    refine .bind hg.inferredBound fun bound => .pure fun s => ?_
    cases bound <;> simp
    omega
  · exact .bind (hg.postfixType.within _) fun t => .pure fun s => by simp; omega

theorem traces_joinedTypes {item : Parse Pieces} (hitem : Traces [] item) (op : String) :
    Traces [] (joinedTypes op item) := by
  refine .skip (traces_eat _) fun _ => .bind hitem fun first => ?_
  refine .bindOf (Y := sitesOf [first]) (Z := []) (fun s => by simp)
    (.repeating (fun taken => ?_) [first]) fun items => .pure fun s => by simp
  refine .skip (traces_eat _) fun b => .ite (fun _ => ?_) fun _ => .pure fun s => by simp
  exact .bind hitem fun t => .pure fun s => by simp

theorem Traced.typeRule (hg : g.Traced) : Traces [] g.typeRule := by
  refine .look looks_seesFunctionType fun b => .ite (fun _ => hg.functionType) fun _ => ?_
  have hitem := traces_joinedTypes (traces_joinedTypes hg.operatorType "&") "|"
  refine .bind hitem fun t => .look looks_token fun next => .look looks_allowed fun a => ?_
  refine .ite (fun _ => ?_) fun _ => .pure fun s => by simp
  refine .skip traces_takeWord fun _ => .bind (hg.type.within _) fun bound => ?_
  refine .skip (traces_expect _) fun _ => .bind (hg.type.within _) fun yes => ?_
  refine .skip (traces_expect _) fun _ => .bind (hg.type.within _) fun no => ?_
  exact .pure fun s => by simp; omega

end ModuleBundler.Grammar
