import Mathlib.Data.List.Basic
import TokenScope.Recording

/-!
The index of a recording agrees with its tokens: it counts those of each kind, and lists in
order those that start on each line.
-/

namespace TokenScope

/-- The end of input starts on no line. -/
def Token.startsOn (line : Nat) (token : Token) : Bool :=
  !token.isEnd && token.location.line = line

theorem Token.startsOn_iff {line : Nat} {token : Token} :
    token.startsOn line ↔ ¬ token.isEnd ∧ token.location.line = line := by
  simp [startsOn]

namespace TokenIndex

theorem count_add (index : TokenIndex) (i : Nat) (token : Token) (kind : TokenKind) :
    (index.add i token).count kind =
      index.count kind + if token.kind = kind then 1 else 0 := by
  simp only [count, add, Std.HashMap.getD_insert, beq_iff_eq]
  by_cases h : token.kind = kind
  · simp [h]
  · simp [h]

theorem count_addAll (index : TokenIndex) (i : Nat) (tokens : List Token) (kind : TokenKind) :
    (index.addAll i tokens).count kind =
      index.count kind + tokens.countP (·.kind = kind) := by
  induction tokens generalizing index i with
  | nil => rfl
  | cons token tokens ih =>
      rw [addAll, ih, count_add, List.countP_cons, Nat.add_assoc, Nat.add_comm (List.countP _ _)]
      simp only [decide_eq_true_eq]

theorem count_ofTokens (tokens : Array Token) (kind : TokenKind) :
    (ofTokens tokens).count kind = tokens.toList.countP (·.kind = kind) := by
  rw [ofTokens, count_addAll]
  simp [count, empty]

theorem onLine_add (index : TokenIndex) (i : Nat) (token : Token) (line : Nat) :
    (index.add i token).onLine line =
      index.onLine line ++ if token.startsOn line then [i] else [] := by
  unfold onLine add Token.startsOn
  by_cases he : token.isEnd
  · simp [he]
  · by_cases hl : token.location.line = line
    · simp [he, hl]
    · simp [he, hl, Std.HashMap.getD_insert]

theorem onLine_addAll (index : TokenIndex) (i : Nat) (tokens : List Token) (line : Nat) :
    (index.addAll i tokens).onLine line =
      index.onLine line ++
        ((tokens.zipIdx i).filter fun entry => entry.1.startsOn line).map Prod.snd := by
  induction tokens generalizing index i with
  | nil => simp [addAll]
  | cons token tokens ih =>
      rw [addAll, ih, onLine_add, List.zipIdx_cons, List.filter_cons, List.append_assoc]
      by_cases h : token.startsOn line
      · simp [h]
      · simp [h]

/-- The indices of a line are those of the tokens that start there. -/
theorem onLine_ofTokens (tokens : Array Token) (line : Nat) :
    (ofTokens tokens).onLine line =
      (tokens.toList.zipIdx.filter fun entry => entry.1.startsOn line).map Prod.snd := by
  rw [ofTokens, onLine_addAll]
  simp [onLine, empty]

theorem mem_onLine_ofTokens {tokens : Array Token} {line i : Nat} :
    i ∈ (ofTokens tokens).onLine line ↔ ∃ t, tokens[i]? = some t ∧ t.startsOn line := by
  simp [onLine_ofTokens, List.mk_mem_zipIdx_iff_getElem?]

theorem lt_size_of_mem_onLine {tokens : Array Token} {line i : Nat}
    (h : i ∈ (ofTokens tokens).onLine line) : i < tokens.size := by
  obtain ⟨t, ht, -⟩ := mem_onLine_ofTokens.1 h
  exact (Array.getElem?_eq_some_iff.1 ht).1

end TokenIndex

namespace Recording

/-- The tokens of a line with their indices are those of the recording that start there. -/
theorem onLine_ofRun (tokens : Array Token) (found : Array Diagnostic) (position line : Nat) :
    onLine { ofRun tokens found with position } line =
      (tokens.toList.zipIdx.filter fun entry => entry.1.startsOn line).map Prod.swap := by
  simp only [onLine, ofRun, TokenIndex.onLine_ofTokens, List.filterMap_map]
  rw [← List.filterMap_eq_map]
  apply List.filterMap_congr
  intro entry he
  have hm := List.mem_zipIdx_iff_getElem?.1 (List.mem_filter.1 he).1
  simp only [Function.comp_apply, ← Array.getElem?_toList, hm]
  rfl

/-- A line has the tokens of the recording that start there, each with its index. -/
theorem mem_onLine_ofRun {tokens : Array Token} {found : Array Diagnostic}
    {position line i : Nat} {t : Token} :
    (i, t) ∈ onLine { ofRun tokens found with position } line ↔
      tokens[i]? = some t ∧ t.startsOn line := by
  simp only [onLine_ofRun, List.mem_map, List.mem_filter, Prod.exists, Prod.swap_prod_mk,
    Prod.mk.injEq, List.mk_mem_zipIdx_iff_getElem?, Array.getElem?_toList]
  constructor
  · rintro ⟨u, j, ⟨hu, hl⟩, rfl, rfl⟩
    exact ⟨hu, hl⟩
  · rintro ⟨ht, hl⟩
    exact ⟨t, i, ⟨ht, hl⟩, rfl, rfl⟩

/-- Every index of a line is one of a token. -/
theorem map_fst_onLine_ofRun (tokens : Array Token) (found : Array Diagnostic)
    (position line : Nat) :
    (onLine { ofRun tokens found with position } line).map Prod.fst =
      (ofRun tokens found).index.onLine line := by
  rw [onLine_ofRun, ofRun, TokenIndex.onLine_ofTokens, List.map_map]
  rfl

/-- A line keeps the order of the recording. -/
theorem pairwise_onLine_ofRun {tokens : Array Token} {R : Token → Token → Prop}
    (h : tokens.toList.Pairwise R) (found : Array Diagnostic) (position line : Nat) :
    (onLine { ofRun tokens found with position } line).Pairwise fun m n =>
      m.1 < n.1 ∧ R m.2 n.2 := by
  have hindex : tokens.toList.zipIdx.Pairwise fun e f => e.2 < f.2 := by
    have hmap : (tokens.toList.zipIdx.map Prod.snd).Pairwise (· < ·) := by
      rw [List.zipIdx_map_snd]
      exact List.pairwise_lt_range'
    exact List.pairwise_map.1 hmap
  have htoken : tokens.toList.zipIdx.Pairwise fun e f => R e.1 f.1 := by
    have hmap : (tokens.toList.zipIdx.map Prod.fst).Pairwise R := by
      rwa [List.zipIdx_map_fst]
    exact List.pairwise_map.1 hmap
  rw [onLine_ofRun]
  exact List.pairwise_map.2 ((hindex.and htoken).filter _)

end Recording
end TokenScope
