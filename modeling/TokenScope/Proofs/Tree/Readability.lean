import TokenScope.Proofs.Tree.Atoms
import TokenScope.Proofs.Tree.Chains
import TokenScope.Proofs.Tree.Sameness

/-!
Trees put together from what a lexer reads, and how their written forms are read. A written
form opens with an atom or with a parenthesis and a word, and each part of it ends before a
delimiter; so the form and what stands after it come apart in one way only, and two trees
with one written form are the same tree.
-/

namespace TokenScope

/-- An atom that a lexer's token makes. -/
def Atom.Read (atom : Atom) : Prop :=
  ∃ source, ∃ t ∈ (Lexer.ofString source).tokenize.1, Atom.ofToken? t = some atom

/-- A name that a lexer reads as an identifier. -/
def IsName (name : String) : Prop :=
  ∃ source, ∃ t ∈ (Lexer.ofString source).tokenize.1, t.kind = .identifier ∧ t.text = name

/-- Put together from what a lexer reads, with arguments pushed in the order of the text. -/
inductive Expr.Built : Expr → Prop where
  | leaf {atom : Atom} (h : atom.Read) : Built (.leaf atom)
  | unary {op : Operator} {operand made : Expr} (h : Built operand)
      (hm : Expr.unary op operand = .ok made) : Built made
  | binary {op : Operator} {left right made : Expr} (hl : Built left) (hr : Built right)
      (hm : Expr.binary op left right = .ok made) : Built made
  | paren {inner : Expr} (h : Built inner) : Built inner.paren
  | call {name : String} {arguments : List Expr} (hn : IsName name)
      (ha : ∀ argument ∈ arguments, Built argument) :
      Built (.leaf (.ofCall ⟨name, Chain.ofList? arguments⟩))

/-- A tree that is written as a word and its operands in parentheses. The first operand of
a call is its name. -/
inductive Composed : String → List Expr → Expr → Prop where
  | unary {op : Operator} (h : op.isUnary) (operand : Expr) :
      Composed op.symbol [operand] ⟨op, some operand, none, none⟩
  | binary {op : Operator} (h : op.isBinary) (left right : Expr) :
      Composed op.symbol [left, right] ⟨op, some left, some right, none⟩
  | call (name : String) (arguments : List Expr) :
      Composed "call" (.leaf ⟨.var, name, none⟩ :: arguments)
        (.leaf (.ofCall ⟨name, Chain.ofList? arguments⟩))

/-- A tree by its written form: an atom of the language, or composed of such trees. -/
inductive Readable : Expr → Prop where
  | atom {kind : TokenKind} {text : String} {sort : AtomKind} (h : WellFormed kind text)
      (hs : AtomKind.ofKind? kind = some sort) : Readable (.leaf ⟨sort, text, none⟩)
  | composed {word : String} {operands : List Expr} {e : Expr} (h : Composed word operands e)
      (ho : ∀ operand ∈ operands, Readable operand) : Readable e

/-- The operands, each after a space, the closing parenthesis and what stands after it. -/
def closing : List Expr → List Char → List Char
  | [], rest => ')' :: rest
  | operand :: operands, rest => ' ' :: (operand.render.toList ++ closing operands rest)

theorem delimited_closing (operands : List Expr) (rest : List Char) :
    Delimited (closing operands rest) := by
  cases operands with
  | nil => exact delimited_cons _ (by decide)
  | cons operand operands => exact delimited_cons _ (by decide)

theorem toList_renderArguments (arguments : Chain Expr) (later : List Expr) (rest : List Char) :
    (Call.renderArguments arguments).toList ++ closing later rest =
      closing (arguments.grown later) rest := by
  induction arguments generalizing later with
  | single e => simp [Call.renderArguments, Chain.grown, closing]
  | link e older ih =>
      have hi := ih (e :: later)
      rw [closing] at hi
      simpa [Call.renderArguments, Chain.grown] using hi

theorem toList_renderCall (name : String) (arguments : Option (Chain Expr)) (rest : List Char) :
    (Call.render ⟨name, arguments⟩).toList ++ rest =
      '(' :: ("call".toList ++ ' ' :: (name.toList ++
        closing (Chain.sequence arguments) rest)) := by
  cases arguments with
  | none => simp [Call.render, Chain.sequence, closing]
  | some arguments =>
      have ha := toList_renderArguments arguments [] rest
      rw [closing] at ha
      simpa [Call.render, Chain.sequence, Chain.inOrder] using ha

theorem Composed.toList_render {word : String} {operands : List Expr} {e : Expr}
    (h : Composed word operands e) (rest : List Char) :
    e.render.toList ++ rest = '(' :: (word.toList ++ closing operands rest) := by
  cases h with
  | unary _ operand => simp [Expr.render, closing]
  | binary _ left right => simp [Expr.render, closing]
  | call name arguments =>
      have hname : (Expr.leaf ⟨.var, name, none⟩).render = name := by
        simp [Expr.leaf, Expr.render, Atom.render]
      have hc := toList_renderCall name (Chain.ofList? arguments) rest
      rw [Chain.sequence_ofList?] at hc
      rw [closing, hname, ← hc, Expr.leaf, Atom.ofCall, Expr.render, Atom.render]

theorem Operator.symbol_injective {a b : Operator} (h : a.symbol = b.symbol) : a = b := by
  cases a <;> cases b <;> first | rfl | exact absurd h (by decide)

theorem Operator.symbol_ne_call (op : Operator) : op.symbol ≠ "call" := by
  cases op <;> decide

/-- The word and the operands decide the tree. -/
theorem Composed.unique {word word' : String} {operands operands' : List Expr} {e f : Expr}
    (h : Composed word operands e) (h' : Composed word' operands' f) (hw : word = word')
    (ho : operands = operands') : e = f := by
  cases h with
  | unary _ operand =>
      cases h' with
      | unary _ operand' =>
          obtain rfl := Operator.symbol_injective hw
          obtain ⟨rfl, -⟩ := List.cons.inj ho
          rfl
      | binary => simp at ho
      | call => exact absurd hw (Operator.symbol_ne_call _)
  | binary _ left right =>
      cases h' with
      | unary => simp at ho
      | binary _ left' right' =>
          obtain rfl := Operator.symbol_injective hw
          obtain ⟨rfl, hright⟩ := List.cons.inj ho
          obtain ⟨rfl, -⟩ := List.cons.inj hright
          rfl
      | call => exact absurd hw (Operator.symbol_ne_call _)
  | call name arguments =>
      cases h' with
      | unary => exact absurd hw.symm (Operator.symbol_ne_call _)
      | binary => exact absurd hw.symm (Operator.symbol_ne_call _)
      | call name' arguments' =>
          obtain ⟨hname, rfl⟩ := List.cons.inj ho
          obtain rfl : name = name' := by simpa [Expr.leaf] using hname
          rfl

theorem Composed.plain {word : String} {operands : List Expr} {e : Expr}
    (h : Composed word operands e) : Plain word.toList := by
  have hsymbol : ∀ op : Operator, Plain op.symbol.toList := by
    intro op
    cases op <;> simp [Plain, Operator.symbol, Delimits]
  cases h with
  | unary => exact hsymbol _
  | binary => exact hsymbol _
  | call => simp [Plain, Delimits]

/-- Before a delimiter, the written form of the tree is that of no other. -/
def Expr.Recovered (e : Expr) : Prop :=
  ∀ {f : Expr} {t u : List Char}, Readable f → Delimited t → Delimited u →
    e.render.toList ++ t = f.render.toList ++ u → e = f ∧ t = u

theorem closing_inj {operands operands' : List Expr} {t u : List Char}
    (hr : ∀ operand ∈ operands, operand.Recovered)
    (ho : ∀ operand ∈ operands', Readable operand)
    (h : closing operands t = closing operands' u) : operands = operands' ∧ t = u := by
  induction operands generalizing operands' with
  | nil =>
      cases operands' with
      | nil => exact ⟨rfl, (List.cons.inj h).2⟩
      | cons operand' operands' => exact absurd (List.cons.inj h).1 (by decide)
  | cons operand operands ih =>
      cases operands' with
      | nil => exact absurd (List.cons.inj h).1 (by decide)
      | cons operand' operands' =>
          rw [List.forall_mem_cons] at hr ho
          obtain ⟨rfl, hrest⟩ := hr.1 ho.1 (delimited_closing operands t)
            (delimited_closing operands' u) (List.cons.inj h).2
          obtain ⟨rfl, rfl⟩ := ih hr.2 ho.2 hrest
          exact ⟨rfl, rfl⟩

theorem Readable.recovered {e : Expr} (h : Readable e) : e.Recovered := by
  induction h with
  | atom hw hs =>
      intro f t u hf ht hu he
      rw [toList_render_atom hs] at he
      cases hf with
      | atom hw' hs' =>
          rw [toList_render_atom hs'] at he
          obtain ⟨⟨rfl, rfl⟩, rfl⟩ := spelled_append_inj hw hw' hs hs' ht hu he
          exact ⟨rfl, rfl⟩
      | composed hc _ =>
          -- only the form of a composed tree opens with a parenthesis
          rw [hc.toList_render] at he
          exact absurd he ((literal_of_wellFormed hw hs).append_ne_parenthesis _ _)
  | @composed word operands e hc _ ih =>
      intro f t u hf ht hu he
      rw [hc.toList_render] at he
      cases hf with
      | atom hw' hs' =>
          rw [toList_render_atom hs'] at he
          exact absurd he.symm ((literal_of_wellFormed hw' hs').append_ne_parenthesis _ _)
      | @composed word' operands' _ hc' ho' =>
          -- the words end at the first operand; from there the operands are told apart in turn
          rw [hc'.toList_render] at he
          obtain ⟨hword, hrest⟩ := hc.plain.append_inj hc'.plain (delimited_closing operands t)
            (delimited_closing operands' u) (List.cons.inj he).2
          obtain ⟨hoperands, rfl⟩ := closing_inj (fun o hm => ih o hm) ho' hrest
          exact ⟨hc.unique hc' (String.toList_inj.1 hword) hoperands, rfl⟩

theorem Expr.unary_eq_ok {op : Operator} {operand made : Expr} :
    Expr.unary op operand = .ok made ↔ op.isUnary ∧ made = ⟨op, some operand, none, none⟩ := by
  rw [Expr.unary, eq_comm (a := made)]
  split <;> simp [*]

theorem Expr.binary_eq_ok {op : Operator} {left right made : Expr} :
    Expr.binary op left right = .ok made ↔
      op.isBinary ∧ made = ⟨op, some left, some right, none⟩ := by
  rw [Expr.binary, eq_comm (a := made)]
  split <;> simp [*]

theorem Atom.Read.readable {atom : Atom} (h : atom.Read) : Readable (.leaf atom) := by
  obtain ⟨source, t, ht, ha⟩ := h
  simp only [Atom.ofToken?, Option.map_eq_some_iff] at ha
  obtain ⟨sort, hs, rfl⟩ := ha
  have hkind : t.kind ≠ .error ∧ t.kind ≠ .endOfInput := by
    constructor <;> intro he <;> rw [he] at hs <;> contradiction
  have hw : WellFormed t.kind t.text :=
    wellFormed_of_mem_tokenize ht (by simp [Token.isError, hkind.1])
      (by simp [Token.isEnd, hkind.2])
  exact .atom hw hs

theorem IsName.read {name : String} (h : IsName name) : Atom.Read ⟨.var, name, none⟩ := by
  obtain ⟨source, t, ht, hk, rfl⟩ := h
  exact ⟨source, t, ht, by rw [Atom.ofToken?, hk]; rfl⟩

theorem Expr.Built.readable {e : Expr} (h : e.Built) : Readable e := by
  induction h with
  | leaf h => exact h.readable
  | @unary op operand made _ hm ih =>
      obtain ⟨hop, rfl⟩ := Expr.unary_eq_ok.1 hm
      exact .composed (.unary hop operand) (by simpa using ih)
  | @binary op left right made _ _ hm ihl ihr =>
      obtain ⟨hop, rfl⟩ := Expr.binary_eq_ok.1 hm
      exact .composed (.binary hop left right) (by simpa using ⟨ihl, ihr⟩)
  | @paren inner _ ih =>
      have hop : Operator.paren.isUnary := rfl
      exact .composed (.unary hop inner) (by simpa using ih)
  | @call name arguments hn _ ih =>
      refine .composed (.call name arguments) ?_
      rw [List.forall_mem_cons]
      exact ⟨hn.read.readable, ih⟩

/-- Two trees put together from what a lexer reads are the same if they are written alike. -/
theorem render_injective_of_built {e f : Expr} (he : e.Built) (hf : f.Built)
    (h : e.render = f.render) : e = f ∧ e.same f := by
  have hchars : e.render.toList ++ [] = f.render.toList ++ [] := by rw [h]
  obtain ⟨rfl, -⟩ := he.readable.recovered hf.readable delimited_nil delimited_nil hchars
  exact ⟨rfl, e.same_self⟩

/-- Parentheses around a call by either constructor; the argument holds delimiters. -/
theorem render_injective_of_built_paren :
    let call : Expr := .leaf (.ofCall ⟨"neg", Chain.ofList? [.leaf ⟨.string, "b) (", none⟩]⟩)
    ∃ made, Expr.unary .paren call = .ok made ∧ call.paren.Built ∧ made.Built ∧
      made.render = "(paren (call neg \"b) (\"))" ∧ call.paren = made ∧ call.paren.same made := by
  intro call
  have hname : IsName "neg" :=
    ⟨"neg \"b) (\"", ⟨.identifier, "neg", ⟨1, 1⟩, 3⟩, by decide +kernel, rfl, rfl⟩
  have htext : Atom.Read ⟨.string, "b) (", none⟩ :=
    ⟨"neg \"b) (\"", ⟨.string, "b) (", ⟨1, 5⟩, 6⟩, by decide +kernel, rfl⟩
  have hcall : call.Built := .call hname (by simpa using .leaf htext)
  have hmade : Expr.unary .paren call = .ok call.paren := Expr.unary_paren call
  refine ⟨call.paren, hmade, .paren hcall, .unary hcall hmade, by decide +kernel, ?_⟩
  exact render_injective_of_built (.paren hcall) (.unary hcall hmade) rfl

end TokenScope
