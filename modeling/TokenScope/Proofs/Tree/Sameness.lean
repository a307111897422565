import TokenScope.Proofs.Tree.Chains
import TokenScope.Tree.Stmt

/-!
Trees are compared part by part, and the chains in them by a walk from the newest item on.
Only equal trees pass, whatever was put together in them; and a copy, whose chains are grown
anew, is the tree that it was made of.
-/

namespace TokenScope

theorem Chain.same_iff {α : Type} {agree : α → α → Bool} (h : ∀ a b, agree a b ↔ a = b) :
    ∀ chain other : Chain α, chain.same agree other ↔ chain = other
  | .single a, .single b => by simp [Chain.same, h]
  | .single _, .link _ _ | .link _ _, .single _ => by simp [Chain.same]
  | .link a older, .link b older' => by simp [Chain.same, h, Chain.same_iff h older older']

theorem Chain.copy_eq {α : Type} {copyItem : α → α} (h : ∀ a, copyItem a = a)
    (chain : Chain α) : chain.copy copyItem = chain := by
  obtain rfl : copyItem = id := funext h
  have hsame := chain.inOrder_copy id
  rw [List.map_id] at hsame
  exact Option.some.inj (by rw [← ofList?_inOrder, hsame, ofList?_inOrder])

mutual

theorem Expr.same_iff : ∀ e f : Expr, e.same f ↔ e = f
  | ⟨op, l, r, a⟩, ⟨op', l', r', a'⟩ => by
      have hl := Expr.sameOperand_iff l l'
      have hr := Expr.sameOperand_iff r r'
      have ha := Expr.sameAtom_iff a a'
      simp [Expr.same, hl, hr, ha, and_assoc]

theorem Expr.sameOperand_iff : ∀ l r : Option Expr, Expr.sameOperand l r ↔ l = r
  | none, none | none, some _ | some _, none => by simp [Expr.sameOperand]
  | some e, some f => by simp [Expr.sameOperand, Expr.same_iff e f]

theorem Expr.sameAtom_iff : ∀ a b : Option Atom, Expr.sameAtom a b ↔ a = b
  | none, none | none, some _ | some _, none => by simp [Expr.sameAtom]
  | some a, some b => by simp [Expr.sameAtom, Atom.same_iff a b]

theorem Atom.same_iff : ∀ a b : Atom, a.same b ↔ a = b
  | ⟨kind, text, call⟩, ⟨kind', text', call'⟩ => by
      have hc := Atom.sameCall_iff call call'
      simp [Atom.same, hc, and_assoc]

theorem Atom.sameCall_iff : ∀ c d : Option Call, Atom.sameCall c d ↔ c = d
  | none, none | none, some _ | some _, none => by simp [Atom.sameCall]
  | some c, some d => by simp [Atom.sameCall, Call.same_iff c d]

theorem Call.same_iff : ∀ c d : Call, c.same d ↔ c = d
  | ⟨name, none⟩, ⟨name', none⟩ | ⟨name, none⟩, ⟨name', some _⟩
  | ⟨name, some _⟩, ⟨name', none⟩ => by simp [Call.same]
  | ⟨name, some as⟩, ⟨name', some bs⟩ => by
      have ha := Call.sameArguments_iff as bs
      simp [Call.same, ha]

theorem Call.sameArguments_iff : ∀ as bs : Chain Expr, Call.sameArguments as bs ↔ as = bs
  | .single e, .single f => by simp [Call.sameArguments, Expr.same_iff e f]
  | .single _, .link _ _ | .link _ _, .single _ => by simp [Call.sameArguments]
  | .link e older, .link f older' => by
      have he := Expr.same_iff e f
      have ho := Call.sameArguments_iff older older'
      simp [Call.sameArguments, he, ho]

end

theorem Expr.same_self (e : Expr) : e.same e := (e.same_iff e).2 rfl

mutual

theorem Expr.copy_eq : ∀ e : Expr, e.copy = e
  | ⟨op, l, r, a⟩ => by
      have hl := Expr.copyOperand_eq l
      have hr := Expr.copyOperand_eq r
      have ha := Expr.copyAtom_eq a
      rw [Expr.copy, hl, hr, ha]

theorem Expr.copyOperand_eq : ∀ operand : Option Expr, Expr.copyOperand operand = operand
  | none => by rw [Expr.copyOperand]
  | some e => by rw [Expr.copyOperand, Expr.copy_eq e]

theorem Expr.copyAtom_eq : ∀ atom : Option Atom, Expr.copyAtom atom = atom
  | none => by rw [Expr.copyAtom]
  | some a => by rw [Expr.copyAtom, Atom.copy_eq a]

theorem Atom.copy_eq : ∀ a : Atom, a.copy = a
  | ⟨kind, text, call⟩ => by rw [Atom.copy, Atom.copyCall_eq call]

theorem Atom.copyCall_eq : ∀ call : Option Call, Atom.copyCall call = call
  | none => by rw [Atom.copyCall]
  | some call => by rw [Atom.copyCall, Call.copy_eq call]

theorem Call.copy_eq : ∀ call : Call, call.copy = call
  | ⟨name, none⟩ => by rw [Call.copy]
  | ⟨name, some arguments⟩ => by rw [Call.copy, Call.copyArguments_eq arguments]

/-- The arguments are taken down in the order of the text and pushed in it again. -/
theorem Call.copyArguments_eq : ∀ arguments : Chain Expr, Call.copyArguments arguments = arguments
  | .single e => by rw [Call.copyArguments, Expr.copy_eq e]
  | .link e older => by
      have ho : Call.argumentCopies [] older = older.inOrder := Call.argumentCopies_eq older []
      rw [Call.copyArguments, Expr.copy_eq e, ho, Chain.ofList?_inOrder, Chain.push]

theorem Call.argumentCopies_eq : ∀ (arguments : Chain Expr) (later : List Expr),
    Call.argumentCopies later arguments = arguments.grown later
  | .single e, later => by rw [Call.argumentCopies, Expr.copy_eq e, Chain.grown]
  | .link e older, later => by
      rw [Call.argumentCopies, Expr.copy_eq e, Call.argumentCopies_eq older, Chain.grown]

end

theorem Param.sameList_iff : ∀ ps qs : Option (Chain Param), Param.sameList ps qs ↔ ps = qs
  | none, none | none, some _ | some _, none => by simp [Param.sameList]
  | some ps, some qs => by
      have hp : ps.same (· = ·) qs ↔ ps = qs := Chain.same_iff (by simp) ps qs
      simp [Param.sameList, hp]

mutual

theorem Stmt.same_iff : ∀ s t : Stmt, s.same t ↔ s = t
  | .expr e, .expr f => by simp [Stmt.same, Expr.same_iff e f]
  | .expr _, .function _ _ _ _ | .function _ _ _ _, .expr _ => by simp [Stmt.same]
  | .function returns name params body, .function returns' name' params' body' => by
      have hp := Param.sameList_iff params params'
      have hb := Stmt.sameBody_iff body body'
      simp [Stmt.same, hp, hb, and_assoc]

theorem Stmt.sameBody_iff : ∀ b c : Option (Chain Stmt), Stmt.sameBody b c ↔ b = c
  | none, none | none, some _ | some _, none => by simp [Stmt.sameBody]
  | some b, some c => by simp [Stmt.sameBody, Stmt.sameChain_iff b c]

theorem Stmt.sameChain_iff : ∀ b c : Chain Stmt, Stmt.sameChain b c ↔ b = c
  | .single s, .single t => by simp [Stmt.sameChain, Stmt.same_iff s t]
  | .single _, .link _ _ | .link _ _, .single _ => by simp [Stmt.sameChain]
  | .link s older, .link t older' => by
      have hs := Stmt.same_iff s t
      have ho := Stmt.sameChain_iff older older'
      simp [Stmt.sameChain, hs, ho]

end

theorem Param.copyList_eq : ∀ params : Option (Chain Param),
    params.map (Chain.copy Param.copy) = params
  | none => rfl
  | some params => congrArg some (Chain.copy_eq (fun _ => rfl) params)

mutual

theorem Stmt.copy_eq : ∀ s : Stmt, s.copy = s
  | .expr e => by rw [Stmt.copy, e.copy_eq]
  | .function returns name params body => by
      rw [Stmt.copy, Param.copyList_eq params, Stmt.copyBody_eq body]

theorem Stmt.copyBody_eq : ∀ body : Option (Chain Stmt), Stmt.copyBody body = body
  | none => by rw [Stmt.copyBody]
  | some body => by rw [Stmt.copyBody, Stmt.copyChain_eq body]

theorem Stmt.copyChain_eq : ∀ body : Chain Stmt, Stmt.copyChain body = body
  | .single s => by rw [Stmt.copyChain, Stmt.copy_eq s]
  | .link s older => by
      have ho : Stmt.chainCopies [] older = older.inOrder := Stmt.chainCopies_eq older []
      rw [Stmt.copyChain, Stmt.copy_eq s, ho, Chain.ofList?_inOrder, Chain.push]

theorem Stmt.chainCopies_eq : ∀ (body : Chain Stmt) (later : List Stmt),
    Stmt.chainCopies later body = body.grown later
  | .single s, later => by rw [Stmt.chainCopies, Stmt.copy_eq s, Chain.grown]
  | .link s older, later => by
      rw [Stmt.chainCopies, Stmt.copy_eq s, Stmt.chainCopies_eq older, Chain.grown]

end

/-- Values are compared by all that is in them, and copied with it. -/
structure Structural {α : Type} (same : α → α → Bool) (copy : α → α) : Prop where
  same_iff : ∀ a b, same a b ↔ a = b
  same_copy : ∀ a, same (copy a) a

/-- What comparing and copying make of trees. The chains in them are compared and copied as
chains are. -/
structure TreesStructural : Prop where
  exprs : Structural Expr.same Expr.copy
  stmts : Structural Stmt.same Stmt.copy
  arguments_same : ∀ as bs, Call.sameArguments as bs = as.same Expr.same bs
  arguments_copy : ∀ as, Call.copyArguments as = as.copy Expr.copy
  body_same : ∀ b c, Stmt.sameChain b c = b.same Stmt.same c
  body_copy : ∀ b, Stmt.copyChain b = b.copy Stmt.copy
  written : ∀ {e f : Expr}, e.same f → e.render = f.render ∧ e.nodes = f.nodes
  counted : ∀ {returns returns' name name' params params' body body'},
    (Stmt.function returns name params body).same (.function returns' name' params' body') →
      Stmt.paramCount params = Stmt.paramCount params'
  outlined : ∀ {s t : Stmt}, s.same t → s.outline = t.outline

theorem trees_structural : TreesStructural where
  exprs := ⟨Expr.same_iff, fun e => (Expr.same_iff _ e).2 e.copy_eq⟩
  stmts := ⟨Stmt.same_iff, fun s => (Stmt.same_iff _ s).2 s.copy_eq⟩
  arguments_same as bs :=
    Bool.eq_iff_iff.2 ((Call.sameArguments_iff as bs).trans
      (Chain.same_iff Expr.same_iff as bs).symm)
  arguments_copy as := (Call.copyArguments_eq as).trans (Chain.copy_eq Expr.copy_eq as).symm
  body_same b c :=
    Bool.eq_iff_iff.2 ((Stmt.sameChain_iff b c).trans (Chain.same_iff Stmt.same_iff b c).symm)
  body_copy b := (Stmt.copyChain_eq b).trans (Chain.copy_eq Stmt.copy_eq b).symm
  written {e f} h := by
    obtain rfl := (e.same_iff f).1 h
    exact ⟨rfl, rfl⟩
  counted h := by
    obtain ⟨-, -, rfl, -⟩ := Stmt.function.inj ((Stmt.same_iff _ _).1 h)
    rfl
  outlined {s t} h := congrArg Stmt.outline ((s.same_iff t).1 h)

end TokenScope
