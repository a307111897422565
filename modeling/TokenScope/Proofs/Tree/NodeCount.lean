import Mathlib.Algebra.GroupWithZero.Nat
import TokenScope.Proofs.Tree.Readability

/-!
The nodes of a tree that its written form shows. A reader of the form sees parentheses and
words, and a text in quotes is one word, whatever stands between the quotes. A node with
operands, and a call, opens with a parenthesis; any other node is a word where an operand can
stand, and that is neither the word of a node nor the name of a callee.
-/

namespace TokenScope

/-- The characters of a text that stand outside double quotes. -/
def outsideQuotes (quoted : Bool) : List Char → List Char
  | [] => []
  | c :: cs =>
      if c = '"' then outsideQuotes (!quoted) cs
      else if quoted then outsideQuotes quoted cs
      else c :: outsideQuotes quoted cs

/-- How many parentheses open outside double quotes. -/
def openings (cs : List Char) : Nat := (outsideQuotes false cs).count '('

/-- What a reader of a written form tells apart. A text in quotes is a word, quotes included. -/
inductive Mark where
  | opening
  | closing
  | word (cs : List Char)
deriving DecidableEq

namespace Mark

/-- The word that has been read when it ends, if it has begun at all. -/
def ended : List Char → List Mark
  | [] => []
  | c :: cs => [.word (c :: cs)]

/-- The marks of a text behind what has been read of a word. -/
def read (quoted : Bool) (word : List Char) : List Char → List Mark
  | [] => ended word
  | c :: cs =>
      if quoted then
        if c = '"' then .word (word ++ [c]) :: read false [] cs
        else read true (word ++ [c]) cs
      else if c = ' ' then ended word ++ read false [] cs
      else if c = '(' then ended word ++ .opening :: read false [] cs
      else if c = ')' then ended word ++ .closing :: read false [] cs
      else if c = '"' then ended word ++ read true [c] cs
      else read false (word ++ [c]) cs

def ofText (cs : List Char) : List Mark := read false [] cs

end Mark

/-- What the next word of a written form stands for. -/
inductive Slot where
  | operator | callee | operand
deriving DecidableEq

namespace Slot

/-- The word of a call has the name of its callee behind it. -/
def after (word : List Char) : Slot → Slot
  | operator => if word = "call".toList then callee else operand
  | callee | operand => operand

/-- How many words stand for an operand, an argument or the whole tree, if the first word
stands for `slot`. -/
def atoms (slot : Slot) : List Mark → Nat
  | [] => 0
  | .opening :: marks => operator.atoms marks
  | .closing :: marks => operand.atoms marks
  | .word word :: marks => (if slot = operand then 1 else 0) + (slot.after word).atoms marks

end Slot

/-- How many atoms a text shows that are neither operators nor callees. -/
def atomsShown (cs : List Char) : Nat := Slot.operand.atoms (Mark.ofText cs)

theorem outsideQuotes_plain {word : List Char} (h : Plain word) (rest : List Char) :
    outsideQuotes false (word ++ rest) = word ++ outsideQuotes false rest := by
  induction word with
  | nil => rfl
  | cons c word ih =>
      obtain ⟨hc, hword⟩ := List.forall_mem_cons.1 h
      have hquote : c ≠ '"' := fun he => hc (.inr (.inr (.inr he)))
      simp [outsideQuotes, hquote, ih hword]

theorem outsideQuotes_quoted {body : List Char} (h : '"' ∉ body) (rest : List Char) :
    outsideQuotes true (body ++ '"' :: rest) = outsideQuotes false rest := by
  induction body with
  | nil => rfl
  | cons c body ih =>
      rw [List.mem_cons, not_or] at h
      simp [outsideQuotes, Ne.symm h.1, ih h.2]

/-- No parenthesis opens in an atom, unless between quotes. -/
theorem Literal.openings_append {word : List Char} (h : Literal word) (rest : List Char) :
    openings (word ++ rest) = openings rest := by
  cases h with
  | plain _ hp =>
      have hnone : '(' ∉ word := fun hm => hp _ hm (.inr (.inl rfl))
      rw [openings, outsideQuotes_plain hp, List.count_append, List.count_eq_zero.2 hnone,
        Nat.zero_add, openings]
  | @quoted body hb =>
      have hbody : outsideQuotes false ('"' :: body ++ ['"'] ++ rest) =
          outsideQuotes false rest := by
        simpa [outsideQuotes] using outsideQuotes_quoted hb rest
      rw [openings, hbody, openings]

namespace Mark

@[simp] theorem ended_nil : ended [] = [] := rfl

theorem ended_of_ne_nil {word : List Char} (h : word ≠ []) : ended word = [.word word] := by
  obtain ⟨c, cs, rfl⟩ := List.exists_cons_of_ne_nil h
  rfl

theorem read_quoted {body : List Char} (h : '"' ∉ body) (word rest : List Char) :
    read true word (body ++ '"' :: rest) = .word (word ++ body ++ ['"']) :: ofText rest := by
  induction body generalizing word with
  | nil => simp [read, ofText]
  | cons c body ih =>
      rw [List.mem_cons, not_or] at h
      simp [read, Ne.symm h.1, ih h.2]

theorem read_plain {more : List Char} (h : Plain more) (word rest : List Char) :
    read false word (more ++ rest) = read false (word ++ more) rest := by
  induction more generalizing word with
  | nil => simp
  | cons c more ih =>
      obtain ⟨hc, hmore⟩ := List.forall_mem_cons.1 h
      simp only [Delimits, not_or] at hc
      simp [read, hc, ih hmore]

theorem read_of_delimited {word rest : List Char} (hn : word ≠ []) (h : Delimited rest) :
    read false word rest = .word word :: ofText rest := by
  cases rest with
  | nil => exact ended_of_ne_nil hn
  | cons c rest =>
      obtain rfl | rfl | rfl | rfl := h c rfl <;>
        simp [read, ofText, ended_of_ne_nil hn]

/-- An atom is read as one word. -/
theorem ofText_literal {word rest : List Char} (hw : Literal word) (hr : Delimited rest) :
    ofText (word ++ rest) = .word word :: ofText rest := by
  cases hw with
  | plain hn hp =>
      rw [ofText, read_plain hp, List.nil_append, read_of_delimited hn hr]
  | quoted hb =>
      have hread := read_quoted hb ['"'] rest
      simpa [ofText, read] using hread

end Mark

/-- The nodes that a text shows, if `slot` says what its first word stands for. -/
def Slot.shown (slot : Slot) (cs : List Char) : Nat :=
  openings cs + slot.atoms (Mark.ofText cs)

namespace Slot

variable {word rest : List Char}

theorem shown_literal (slot : Slot) (hw : Literal word) (hr : Delimited rest) :
    slot.shown (word ++ rest) =
      (if slot = operand then 1 else 0) + (slot.after word).shown rest := by
  rw [shown, shown, hw.openings_append, Mark.ofText_literal hw hr, atoms]
  omega

/-- What is no operand shows no node. -/
theorem shown_skipped {slot : Slot} (hs : slot ≠ operand) (hw : Literal word)
    (hr : Delimited rest) : slot.shown (word ++ rest) = (slot.after word).shown rest := by
  rw [slot.shown_literal hw hr, if_neg hs, Nat.zero_add]

theorem shown_opening (slot : Slot) (cs : List Char) :
    slot.shown ('(' :: cs) = 1 + operator.shown cs := by
  simp [shown, openings, outsideQuotes, Mark.ofText, Mark.read, atoms]
  omega

theorem shown_closing (slot : Slot) (cs : List Char) :
    slot.shown (')' :: cs) = operand.shown cs := by
  simp [shown, openings, outsideQuotes, Mark.ofText, Mark.read, atoms]

theorem shown_space (slot : Slot) (cs : List Char) :
    slot.shown (' ' :: cs) = slot.shown cs := by
  simp [shown, openings, outsideQuotes, Mark.ofText, Mark.read]

end Slot

/-- Before a delimiter, the written form of the tree shows all its nodes and no other. -/
def Expr.Shown (e : Expr) : Prop :=
  ∀ {rest : List Char}, Delimited rest →
    Slot.operand.shown (e.render.toList ++ rest) = e.nodes + Slot.operand.shown rest

theorem shown_operands {operands : List Expr} (h : ∀ operand ∈ operands, operand.Shown)
    (rest : List Char) :
    Slot.operand.shown (closing operands rest) =
      (operands.map Expr.nodes).sum + Slot.operand.shown rest := by
  induction operands with
  | nil => simp [closing, Slot.shown_closing]
  | cons operand operands ih =>
      rw [List.forall_mem_cons] at h
      rw [closing, Slot.shown_space, h.1 (delimited_closing operands rest), ih h.2,
        List.map_cons, List.sum_cons, Nat.add_assoc]

theorem Expr.nodesOfChain_eq (arguments : Chain Expr) :
    Expr.nodesOfChain arguments = (arguments.inOrder.map Expr.nodes).sum := by
  induction arguments with
  | single e => simp [Expr.nodesOfChain]
  | link e older ih => simp [Expr.nodesOfChain, ih, Nat.add_comm]

theorem Expr.nodes_call (name : String) (arguments : List Expr) :
    (Expr.leaf (.ofCall ⟨name, Chain.ofList? arguments⟩)).nodes =
      1 + (arguments.map Expr.nodes).sum := by
  have ha := Chain.sequence_ofList? arguments
  rw [Expr.leaf, Atom.ofCall, Expr.nodes, Expr.nodesOfOperand]
  cases hc : Chain.ofList? arguments with
  | none =>
      rw [hc, Chain.sequence_none] at ha
      simp [← ha, Expr.nodesOfAtom]
  | some chain =>
      rw [hc, Chain.sequence_some] at ha
      simp [← ha, Expr.nodesOfAtom, Expr.nodesOfChain_eq]

theorem Readable.literal_of_leaf {sort : AtomKind} {text : String}
    (h : Readable (.leaf ⟨sort, text, none⟩)) :
    Literal (Expr.leaf ⟨sort, text, none⟩).render.toList := by
  cases h with
  | atom hw hs =>
      rw [toList_render_atom hs]
      exact literal_of_wellFormed hw hs
  | composed hc => cases hc

theorem Composed.literal {word : String} {operands : List Expr} {e : Expr}
    (h : Composed word operands e) : Literal word.toList := by
  refine .plain ?_ h.plain
  cases h with
  | @unary op | @binary op => cases op <;> decide
  | call => decide

theorem Slot.after_symbol (op : Operator) :
    Slot.operator.after op.symbol.toList = .operand :=
  if_neg fun h => op.symbol_ne_call (String.toList_inj.1 h)

theorem Readable.shown {e : Expr} (h : Readable e) : e.Shown := by
  induction h with
  | @atom kind text sort hw hs =>
      intro rest hr
      have hone : (Expr.leaf ⟨sort, text, none⟩).nodes = 1 := by
        simp [Expr.leaf, Expr.nodes, Expr.nodesOfOperand, Expr.nodesOfAtom]
      rw [toList_render_atom hs, Slot.shown_literal _ (literal_of_wellFormed hw hs) hr, hone]
      rfl
  | @composed word operands e hc ho ih =>
      intro rest hr
      rw [hc.toList_render, Slot.shown_opening,
        Slot.shown_skipped (by decide) hc.literal (delimited_closing operands rest)]
      cases hc with
      | @unary op _ operand =>
          rw [Slot.after_symbol, shown_operands ih, ← Nat.add_assoc]
          simp [Expr.nodes, Expr.nodesOfOperand, Expr.nodesOfAtom]
      | @binary op _ left right =>
          rw [Slot.after_symbol, shown_operands ih, ← Nat.add_assoc]
          simp [Expr.nodes, Expr.nodesOfOperand, Expr.nodesOfAtom, Nat.add_assoc]
      | call name arguments =>
          -- the first word behind the word of a call is the callee, no operand
          rw [List.forall_mem_cons] at ho ih
          have hcallee : Slot.callee.shown (closing (.leaf ⟨.var, name, none⟩ :: arguments) rest) =
              Slot.operand.shown (closing arguments rest) := by
            rw [closing, Slot.shown_space]
            exact Slot.shown_skipped (by decide) ho.1.literal_of_leaf
              (delimited_closing arguments rest)
          rw [Expr.nodes_call, Nat.add_assoc, ← shown_operands ih.2, ← hcallee]
          rfl

/-- A tree has as many nodes as its written form shows: one for each parenthesis that opens
outside quotes, and one for each atom that is neither an operator nor a callee. -/
theorem nodes_eq_of_built {e : Expr} (h : e.Built) :
    e.nodes = openings e.render.toList + atomsShown e.render.toList := by
  have hshown := h.readable.shown delimited_nil
  rw [List.append_nil] at hshown
  exact hshown.symm

/-- A call in an operand and operands in a call. A string holds parentheses, a variable is
named like the word of a call, and a callee like an operator. -/
theorem nodes_eq_of_built_nested :
    let x : Expr := .leaf ⟨.var, "call", none⟩
    let text : Expr := .leaf ⟨.string, "(a) (", none⟩
    let inner : Expr := .leaf (.ofCall ⟨"neg", Chain.ofList? [x, text]⟩)
    let sum : Expr := ⟨.add, some x, some inner, none⟩
    let outer : Expr := .leaf (.ofCall ⟨"neg", Chain.ofList? [sum, text]⟩)
    outer.paren.Built ∧
      outer.paren.render = "(paren (call neg (+ call (call neg call \"(a) (\")) \"(a) (\"))" ∧
      outer.paren.nodes = openings outer.paren.render.toList +
        atomsShown outer.paren.render.toList ∧
      openings outer.paren.render.toList = 4 ∧ atomsShown outer.paren.render.toList = 4 := by
  intro x text inner sum outer
  have hname : IsName "neg" :=
    ⟨"neg call \"(a) (\"", ⟨.identifier, "neg", ⟨1, 1⟩, 3⟩, by decide +kernel, rfl, rfl⟩
  have hx : x.Built := .leaf
    ⟨"neg call \"(a) (\"", ⟨.identifier, "call", ⟨1, 5⟩, 4⟩, by decide +kernel, rfl⟩
  have htext : text.Built := .leaf
    ⟨"neg call \"(a) (\"", ⟨.string, "(a) (", ⟨1, 10⟩, 7⟩, by decide +kernel, rfl⟩
  have hinner : inner.Built := .call hname (by simpa using ⟨hx, htext⟩)
  have hmade : Expr.binary .add x inner = .ok sum := rfl
  have hsum : sum.Built := .binary hx hinner hmade
  have houter : outer.Built := .call hname (by simpa using ⟨hsum, htext⟩)
  refine ⟨.paren houter, by decide +kernel, nodes_eq_of_built (.paren houter), ?_, ?_⟩
  · decide +kernel
  · decide +kernel

end TokenScope
