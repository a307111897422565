import TokenScope.Proofs.Lexing.RoundTrip

/-!
How atoms are written. A literal or a name ends before the first delimiter behind it, a
string with its quote; so an atom and what stands after it come apart in one way only, and
nothing but its written form is needed to tell its kind and its text.
-/

namespace TokenScope

/-- Where two words end first decides where they end, if none of their characters may. -/
theorem append_inj_of_stops {stops : Char → Prop} {v w t u : List Char}
    (hv : ∀ c ∈ v, ¬ stops c) (hw : ∀ c ∈ w, ¬ stops c) (ht : ∀ c ∈ t.head?, stops c)
    (hu : ∀ c ∈ u.head?, stops c) (h : v ++ t = w ++ u) : v = w ∧ t = u := by
  induction v generalizing w with
  | nil =>
      cases w with
      | nil => exact ⟨rfl, h⟩
      | cons d w => exact absurd (ht d (by rw [← List.nil_append t, h]; rfl)) (hw d (.head _))
  | cons c v ih =>
      cases w with
      | nil => exact absurd (hu c (by rw [← List.nil_append u, ← h]; rfl)) (hv c (.head _))
      | cons d w =>
          obtain ⟨rfl, hrest⟩ := List.cons.inj h
          rw [List.forall_mem_cons] at hv hw
          obtain ⟨rfl, rfl⟩ := ih hv.2 hw.2 hrest
          exact ⟨rfl, rfl⟩

/-- A character that ends every number and every word. -/
def Delimits (c : Char) : Prop := c = ' ' ∨ c = '(' ∨ c = ')' ∨ c = '"'

instance (c : Char) : Decidable (Delimits c) :=
  inferInstanceAs (Decidable (c = ' ' ∨ c = '(' ∨ c = ')' ∨ c = '"'))

def Delimited (cs : List Char) : Prop := ∀ c ∈ cs.head?, Delimits c

theorem delimited_nil : Delimited [] := by
  simp [Delimited]

theorem delimited_cons {c : Char} (rest : List Char) (h : Delimits c) : Delimited (c :: rest) := by
  rintro d ⟨⟩
  exact h

def Plain (cs : List Char) : Prop := ∀ c ∈ cs, ¬ Delimits c

theorem Plain.not_delimits {v t rest : List Char} {c : Char} (hv : Plain v) (hn : v ≠ [])
    (h : v ++ t = c :: rest) : ¬ Delimits c := by
  obtain ⟨d, ds, rfl⟩ := List.exists_cons_of_ne_nil hn
  obtain ⟨rfl, -⟩ := List.cons.inj h
  exact hv d (.head _)

theorem Plain.append_inj {v w t u : List Char} (hv : Plain v) (hw : Plain w) (ht : Delimited t)
    (hu : Delimited u) (h : v ++ t = w ++ u) : v = w ∧ t = u :=
  append_inj_of_stops hv hw ht hu h

namespace NumberState

theorem step_of_delimits {c : Char} (h : Delimits c) (state : NumberState) :
    state.step c = none := by
  obtain rfl | rfl | rfl | rfl := h <;> cases state <;> rfl

theorem plain_of_reached {w : List Char} {state : NumberState} (h : reached w = some state) :
    Plain w := by
  induction w using List.reverseRecOn generalizing state with
  | nil => simp [Plain]
  | append_singleton w c ih =>
      by_cases hw : w = []
      · subst hw
        simp only [List.nil_append, reached, Option.ite_none_right_eq_some] at h
        have hc : ¬ Delimits c := by
          have hlead := h.1
          rintro (rfl | rfl | rfl | rfl) <;> revert hlead <;> decide
        simpa [Plain] using hc
      · rw [reached_snoc hw] at h
        obtain ⟨before, hb, hs⟩ := Option.bind_eq_some_iff.1 h
        intro d hd
        rw [List.mem_append, List.mem_singleton] at hd
        obtain hd | rfl := hd
        · exact ih hb d hd
        · intro hc
          rw [step_of_delimits hc] at hs
          contradiction

end NumberState

theorem not_delimits_of_isWordCharacter {c : Char} (h : isWordCharacter c) : ¬ Delimits c := by
  rintro (rfl | rfl | rfl | rfl) <;> revert h <;> decide

theorem IsIdentifier.plain {cs : List Char} (h : IsIdentifier cs) : Plain cs := by
  obtain ⟨c, rest, hc, hrest, rfl⟩ := h
  intro d hd
  obtain rfl | hd := List.mem_cons.1 hd
  · exact not_delimits_of_isWordCharacter (by simp [isWordCharacter, hc])
  · exact not_delimits_of_isWordCharacter (hrest d hd)

/-- The written forms of atoms that are no calls. -/
inductive Literal : List Char → Prop where
  | plain {cs : List Char} (hn : cs ≠ []) (h : Plain cs) : Literal cs
  | quoted {body : List Char} (h : '"' ∉ body) : Literal ('"' :: body ++ ['"'])

namespace Literal

theorem append_ne_parenthesis {v : List Char} (h : Literal v) (t rest : List Char) :
    v ++ t ≠ '(' :: rest := by
  intro he
  cases h with
  | plain hn hv => exact hv.not_delimits hn he (.inr (.inl rfl))
  | quoted => exact absurd (List.cons.inj he).1 (by decide)

theorem append_inj {v w t u : List Char} (hv : Literal v) (hw : Literal w) (ht : Delimited t)
    (hu : Delimited u) (h : v ++ t = w ++ u) : v = w ∧ t = u := by
  have hquote : Delimits '"' := by decide
  cases hv with
  | plain hn hv =>
      cases hw with
      | plain _ hw => exact hv.append_inj hw ht hu h
      | quoted => exact absurd hquote (hv.not_delimits hn h)
  | quoted hb =>
      cases hw with
      | plain hn hw => exact absurd hquote (hw.not_delimits hn h.symm)
      | quoted hb' =>
          simp only [List.cons_append, List.append_assoc, List.nil_append, List.cons.injEq,
            true_and] at h
          have hout : ∀ {cs : List Char}, '"' ∉ cs → ∀ c ∈ cs, ¬ c = '"' :=
            fun hcs c hc he => hcs (he ▸ hc)
          have hstop : ∀ rest, ∀ c ∈ ('"' :: rest).head?, c = '"' := by simp
          obtain ⟨rfl, hrest⟩ := append_inj_of_stops (hout hb) (hout hb') (hstop t) (hstop u) h
          exact ⟨rfl, (List.cons.inj hrest).2⟩

end Literal

theorem literal_of_wellFormed {kind : TokenKind} {text : String} {sort : AtomKind}
    (h : WellFormed kind text) (hs : AtomKind.ofKind? kind = some sort) :
    Literal (Reading.token kind text).spelled := by
  have hreached : ∀ {state}, NumberState.reached text.toList = some state →
      Literal text.toList := fun hr =>
    .plain (NumberState.ne_nil_of_reached hr) (NumberState.plain_of_reached hr)
  cases kind with
  | integer =>
      obtain hd | hx := h
      · obtain hr | hr := NumberState.reached_of_isDigits hd <;> exact hreached hr
      · exact hreached (NumberState.reached_hexadecimal hx)
  | double =>
      obtain hf | ⟨m, e, hm, he, hw⟩ := h
      · exact hreached (NumberState.reached_of_isFraction hf)
      · have hr := NumberState.reached_exponent hm he
        rw [← hw] at hr
        exact hreached hr
  | string => exact .quoted h
  | identifier =>
      obtain ⟨c, rest, -, -, hcs⟩ := h.1
      have hn : text.toList ≠ [] := hcs ▸ List.cons_ne_nil c rest
      exact .plain hn h.1.plain
  | _ => contradiction

/-- The kind and the text of an atom are read off its written form. -/
theorem spelled_append_inj {kind kind' : TokenKind} {text text' : String}
    {sort sort' : AtomKind} {t u : List Char} (h : WellFormed kind text)
    (h' : WellFormed kind' text') (hs : AtomKind.ofKind? kind = some sort)
    (hs' : AtomKind.ofKind? kind' = some sort') (ht : Delimited t) (hu : Delimited u)
    (he : (Reading.token kind text).spelled ++ t = (Reading.token kind' text').spelled ++ u) :
    (sort = sort' ∧ text = text') ∧ t = u := by
  obtain ⟨hspelled, rfl⟩ :=
    (literal_of_wellFormed h hs).append_inj (literal_of_wellFormed h' hs') ht hu he
  have hread := (Lexeme.first?_spelled h).symm.trans
    ((congrArg Lexeme.first? hspelled).trans (Lexeme.first?_spelled h'))
  simp only [Option.some.injEq, Lexeme.mk.injEq, Reading.token.injEq] at hread
  obtain ⟨⟨rfl, rfl⟩, -⟩ := hread
  rw [hs, Option.some.injEq] at hs'
  exact ⟨⟨hs', rfl⟩, rfl⟩

theorem toList_render_atom {kind : TokenKind} {text : String} {sort : AtomKind}
    (h : AtomKind.ofKind? kind = some sort) :
    (Expr.leaf ⟨sort, text, none⟩).render.toList = (Reading.token kind text).spelled := by
  rw [← toList_written, written, Atom.ofToken?, h]
  rw [Expr.leaf, Expr.render]
  rfl

end TokenScope
