import Mathlib.Algebra.GroupWithZero.Nat
import Mathlib.Data.List.Infix
import TokenScope.Command.Outcome
import TokenScope.Proofs.Browser.SourceLines
import TokenScope.Proofs.Lexing.LineFeeds
import TokenScope.Proofs.Lexing.Stream
import TokenScope.Proofs.Tree.Atoms

/-!
What a dump tells of its tokens. A token takes one line and, if it is a string, one more for
each line feed in it. A string that holds the end of a line and the start of another can pass
for two tokens; where none does, the output determines the tokens.
-/

namespace TokenScope

namespace TokenKind

theorem ofName?_name (kind : TokenKind) : ofName? kind.name = some kind := by
  cases kind <;> rfl

theorem name_injective {kind other : TokenKind} (h : kind.name = other.name) : kind = other := by
  have ho := ofName?_name other
  rw [← h, ofName?_name] at ho
  exact Option.some.inj ho

/-- How the line of a token of the kind starts. -/
def opening (kind : TokenKind) : List Char := '<' :: (kind.name.toList ++ [',', ' '])

/-- The end of a line and the start of the line of a token of the kind. -/
def boundary (kind : TokenKind) : List Char := '>' :: '\n' :: kind.opening

theorem opening_plain (kind : TokenKind) : '>' ∉ kind.opening ∧ '\n' ∉ kind.opening := by
  cases kind <;> decide

theorem comma_not_mem_name (kind : TokenKind) : ',' ∉ kind.name.toList := by
  cases kind <;> decide

theorem opening_append_inj {kind other : TokenKind} {rest more : List Char}
    (h : kind.opening ++ rest = other.opening ++ more) : kind = other ∧ rest = more := by
  have hcomma : ∀ k : TokenKind, ∀ c ∈ k.name.toList, ¬ c = ',' := by
    rintro k c hc rfl
    exact k.comma_not_mem_name hc
  have hnames : kind.name.toList ++ ',' :: ' ' :: rest =
      other.name.toList ++ ',' :: ' ' :: more := by
    simpa [opening] using h
  obtain ⟨hname, hrest⟩ := @append_inj_of_stops (· = ',') _ _ _ _ (hcomma kind) (hcomma other)
    (by simp) (by simp) hnames
  refine ⟨name_injective (String.toList_inj.1 hname), ?_⟩
  simpa using hrest

end TokenKind

/-- The text holds the end of a line and the start of the line of a token. -/
def Forges (text : List Char) : Prop :=
  ∃ kind : TokenKind, kind ≠ .endOfInput ∧ kind.boundary <:+: text

instance (text : List Char) : Decidable (Forges text) :=
  decidable_of_iff (∃ kind ∈ TokenKind.all, kind ≠ .endOfInput ∧ kind.boundary <:+: text)
    (by simp [Forges, TokenKind.mem_all])

/-- Nothing, or the line of a token and what follows. -/
inductive Opens : List Char → Prop
  | nothing : Opens []
  | token {kind : TokenKind} (hk : kind ≠ .endOfInput) (rest : List Char) :
      Opens (kind.opening ++ rest)

/-- Text that forges nothing cannot lie between two places where a line ends. -/
theorem eq_nil_of_closes {more rest other : List Char} (ho : Opens rest) (hm : ¬ Forges more)
    (h : '>' :: '\n' :: rest = more ++ '>' :: '\n' :: other) : more = [] := by
  match more with
  | [] => rfl
  | [c] =>
      have hc : '\n' = '>' := (List.cons.inj (List.cons.inj h).2).1
      contradiction
  | c :: d :: more =>
      simp only [List.cons_append, List.cons.injEq] at h
      obtain ⟨rfl, rfl, h⟩ := h
      cases ho with
      | nothing => simp at h
      | @token kind hk rest =>
          have hforges : ∀ tail, more ≠ kind.opening ++ tail := by
            rintro tail rfl
            exact hm ⟨kind, hk, [], tail, rfl⟩
          obtain ⟨tail, hl, -⟩ | ⟨tail, hl, hr⟩ := List.append_eq_append_iff.1 h
          · exact absurd hl (hforges tail)
          · -- the line's start would have to hold the end of a line
            cases tail with
            | nil => exact absurd (by simpa using hl.symm) (hforges [])
            | cons c tail =>
                obtain ⟨rfl, -⟩ := List.cons.inj hr
                have hin : '>' ∈ kind.opening := hl ▸ List.mem_append_right _ (.head _)
                exact absurd hin kind.opening_plain.1

theorem Forges.of_append {front back : List Char} (h : Forges back) : Forges (front ++ back) := by
  obtain ⟨kind, hk, hb⟩ := h
  exact ⟨kind, hk, hb.trans (List.suffix_append front back).isInfix⟩

/-- Where the text of a line ends is the same in all texts that forge nothing. -/
theorem closes_inj {text other rest more : List Char} (ht : ¬ Forges text)
    (ho : ¬ Forges other) (hrest : Opens rest) (hmore : Opens more)
    (h : text ++ '>' :: '\n' :: rest = other ++ '>' :: '\n' :: more) :
    text = other ∧ rest = more := by
  have hsame : text = other := by
    obtain ⟨tail, rfl, hr⟩ | ⟨tail, rfl, hr⟩ := List.append_eq_append_iff.1 h
    · rw [eq_nil_of_closes hrest (mt Forges.of_append ho) hr, List.append_nil]
    · rw [eq_nil_of_closes hmore (mt Forges.of_append ht) hr, List.append_nil]
  subst hsame
  have hboth := List.append_cancel_left h
  simp only [List.cons.injEq, true_and] at hboth
  exact ⟨rfl, hboth⟩

namespace Token

/-- The line of a token, which a line feed in its text breaks up. -/
def row (t : Token) : List Char := t.kind.opening ++ (t.text.toList ++ ['>', '\n'])

theorem toList_render (t : Token) : (t.render ++ "\n").toList = t.row := by
  simp [render, row, TokenKind.opening]

/-- The line feeds in a string. -/
def feeds (t : Token) : Nat := if t.kind = .string then t.text.toList.count '\n' else 0

theorem KeepsLine.feeds_eq {t : Token} (h : t.KeepsLine) :
    t.feeds = t.text.toList.count '\n' := by
  unfold feeds
  split
  · rfl
  · rename_i hs
    exact (List.count_eq_zero.2 (h hs)).symm

theorem length_linesAfter_row {t : Token} (h : t.KeepsLine) (rest : List Char) :
    (linesAfter [] (t.row ++ rest)).length = 1 + t.feeds + (linesAfter [] rest).length := by
  have hrow : t.row ++ rest = t.kind.opening ++ (t.text.toList ++ ['>']) ++ '\n' :: rest := by
    simp [row]
  obtain ⟨kept, hk⟩ := length_linesAfter_append []
    (t.kind.opening ++ (t.text.toList ++ ['>'])) ('\n' :: rest)
  have hcount : (t.kind.opening ++ (t.text.toList ++ ['>'])).count '\n' = t.feeds := by
    rw [List.count_append, List.count_append, List.count_eq_zero.2 t.kind.opening_plain.2,
      h.feeds_eq]
    exact Nat.zero_add _
  rw [hrow, hk, hcount, linesAfter, List.length_cons]
  omega

theorem length_linesAfter_rows {ts : List Token} (h : ∀ t ∈ ts, t.KeepsLine) :
    (linesAfter [] (ts.flatMap row)).length = ts.length + (ts.map feeds).sum := by
  induction ts with
  | nil => rfl
  | cons t ts ih =>
      rw [List.forall_mem_cons] at h
      rw [List.flatMap_cons, length_linesAfter_row h.1, ih h.2, List.length_cons, List.map_cons,
        List.sum_cons]
      omega

theorem opens_rows {ts : List Token} (h : ∀ t ∈ ts, ¬ t.isEnd) : Opens (ts.flatMap row) := by
  cases ts with
  | nil => exact .nothing
  | cons t ts =>
      have hk : t.kind ≠ .endOfInput := by
        have he := h t (.head _)
        simpa [isEnd] using he
      rw [List.flatMap_cons, row, List.append_assoc]
      exact .token hk _

/-- The lines of tokens whose texts forge nothing are read back in one way. -/
theorem rows_inj {ts us : List Token} (ht : ∀ t ∈ ts, ¬ t.isEnd ∧ ¬ Forges t.text.toList)
    (hu : ∀ u ∈ us, ¬ u.isEnd ∧ ¬ Forges u.text.toList) (h : ts.flatMap row = us.flatMap row) :
    ts.map entry = us.map entry := by
  induction ts generalizing us with
  | nil =>
      cases us with
      | nil => rfl
      | cons u us => simp [row, TokenKind.opening] at h
  | cons t ts ih =>
      cases us with
      | nil => simp [row, TokenKind.opening] at h
      | cons u us =>
          rw [List.forall_mem_cons] at ht hu
          simp only [List.flatMap_cons, row, List.append_assoc] at h
          obtain ⟨hkind, hbody⟩ := TokenKind.opening_append_inj h
          obtain ⟨htext, hrest⟩ := closes_inj ht.1.2 hu.1.2
            (opens_rows fun t h => (ht.2 t h).1) (opens_rows fun u h => (hu.2 u h).1) hbody
          have hentry : t.entry = u.entry := Prod.ext hkind (String.toList_inj.1 htext)
          rw [List.map_cons, List.map_cons, hentry, ih ht.2 hu.2 hrest]

end Token

namespace Command

theorem toList_tokenLines (tokens : Array Token) :
    (tokenLines tokens).toList = (tokens.toList.filter (!·.isEnd)).flatMap Token.row := by
  simp only [tokenLines, String.toList_join, List.flatMap_map, Token.toList_render]

/-- A dump that is asked for, finds a text and keeps within its limit. -/
structure Dump where
  options : Options
  entry : Entry
  source : String
  asked : options.dump
  readable : entry.text = .ok source
  within : (Lexer.ofString source).tokenize.1.size ≤ options.limit

namespace Dump

/-- A file with the text, and a limit that the text just keeps. -/
def ofText (source : String) : Dump where
  options := ⟨"", true, (Lexer.ofString source).tokenize.1.size⟩
  entry := .file source.toUTF8
  source := source
  asked := rfl
  readable := Entry.text_file source
  within := Nat.le_refl _

def report (d : Dump) : Report := dump (.ofString d.source) d.options.limit

/-- The tokens before the end of input. -/
def tokens (d : Dump) : List Token :=
  (Lexer.ofString d.source).tokenize.1.toList.takeWhile (!·.isEnd)

/-- All tokens, each with its kind and text. -/
def entries (d : Dump) : List (TokenKind × String) :=
  (Lexer.ofString d.source).tokenize.1.toList.map Token.entry

/-- No string can pass for more than one token. -/
def Honest (d : Dump) : Prop := ∀ t ∈ d.tokens, t.kind = .string → ¬ Forges t.text.toList

instance (d : Dump) : Decidable d.Honest :=
  inferInstanceAs (Decidable (∀ t ∈ d.tokens, t.kind = .string → ¬ Forges t.text.toList))

theorem tokens_eq (d : Dump) : d.tokens = Piece.tokens .start (pieces d.source.toList) := by
  rw [tokens, Lexer.tokenize_ofString, List.takeWhile_append_of_pos]
  · simp
  · intro t ht
    simpa using Piece.not_isEnd_of_mem_tokens ht

theorem entries_eq (d : Dump) : d.entries = d.tokens.map Token.entry ++ [(.endOfInput, "")] := by
  rw [entries, tokens_eq, Lexer.tokenize_ofString, List.map_append]
  rfl

theorem keepsLine_of_mem (d : Dump) : ∀ t ∈ d.tokens, t.KeepsLine := by
  intro t ht
  rw [tokens_eq] at ht
  exact keepsLine_of_mem_tokens ht

theorem Honest.not_forges {d : Dump} (h : d.Honest) :
    ∀ t ∈ d.tokens, ¬ t.isEnd ∧ ¬ Forges t.text.toList := by
  intro t ht
  refine ⟨Piece.not_isEnd_of_mem_tokens (d.tokens_eq ▸ ht), ?_⟩
  by_cases hs : t.kind = .string
  · exact h t ht hs
  · rintro ⟨kind, -, hb⟩
    exact d.keepsLine_of_mem t ht hs (hb.subset (.tail _ (.head _)))

theorem run_eq (d : Dump) : run d.options d.entry = .done d.report := by
  have hfound : ¬ d.entry.isMissing := by
    intro hm
    have hr := d.readable
    cases he : d.entry with
    | missing =>
        rw [he] at hr
        contradiction
    | directory | file bytes =>
        rw [he] at hm
        contradiction
  rw [run, if_neg hfound, d.readable]
  exact if_pos d.asked

theorem output_eq (d : Dump) : d.report.output.toList = d.tokens.flatMap Token.row := by
  have hall : d.report.output = tokenLines (Lexer.ofString d.source).tokenize.1 := by
    rw [report, dump, Lexer.collect_eq, if_pos d.within]
  have hfilter : (Piece.tokens .start (pieces d.source.toList)).filter (!·.isEnd) =
      Piece.tokens .start (pieces d.source.toList) := by
    rw [List.filter_eq_self]
    intro t ht
    simpa using Piece.not_isEnd_of_mem_tokens ht
  rw [hall, toList_tokenLines, tokens_eq, Lexer.tokenize_ofString, List.filter_append, hfilter]
  simp

end Dump

/-- A dump has a line for each token before the end of input and one more for each line feed
in a string, and where no string can pass for more than one token it determines the tokens. -/
theorem dump_lines_and_entries (d : Dump) :
    run d.options d.entry = .done d.report ∧
    (linesOf d.report.output).length = d.tokens.length + (d.tokens.map Token.feeds).sum ∧
    ∀ e : Dump, d.Honest → e.Honest → d.report.output = e.report.output →
      d.entries = e.entries := by
  refine ⟨d.run_eq, ?_, ?_⟩
  · rw [linesOf, d.output_eq]
    exact Token.length_linesAfter_rows d.keepsLine_of_mem
  · intro e hd he h
    have hrows : d.tokens.flatMap Token.row = e.tokens.flatMap Token.row := by
      rw [← d.output_eq, ← e.output_eq, h]
    rw [d.entries_eq, e.entries_eq, Token.rows_inj hd.not_forges he.not_forges hrows]

/-- A string over two lines before a number that breaks off, at two distances. -/
theorem dump_lines_and_entries_broken_number :
    let d := Dump.ofText "\"a\n>\" 0x"
    let e := Dump.ofText "\"a\n>\"\n@ 0x"
    d.Honest ∧ e.Honest ∧ d.report.output = e.report.output ∧
      (linesOf d.report.output).length = d.tokens.length + (d.tokens.map Token.feeds).sum ∧
      d.entries = e.entries := by
  intro d e
  have hd : d.Honest := by decide +kernel
  have he : e.Honest := by decide +kernel
  have h : d.report.output = e.report.output := by decide +kernel
  obtain ⟨-, hlines, hentries⟩ := dump_lines_and_entries d
  exact ⟨hd, he, h, hlines, hentries e hd he h⟩

/-- One string that passes for a string and an identifier: one token, two lines. -/
theorem dump_forged :
    let d := Dump.ofText "\"a>\n<id, x\""
    let e := Dump.ofText "\"a\" x"
    run d.options d.entry = .done d.report ∧ run e.options e.entry = .done e.report ∧
      d.report.output = e.report.output ∧ d.entries ≠ e.entries ∧
      (linesOf d.report.output).length ≠ d.tokens.length := by
  intro d e
  exact ⟨d.run_eq, e.run_eq, by decide +kernel, by decide +kernel, by decide +kernel⟩

end Command
end TokenScope
