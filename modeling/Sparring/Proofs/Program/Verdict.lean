/-
When the linter's verdict depends on how a text is encoded.

The linter sees the text that it reads and nothing else of a file (`judge_eq_verdict`).  In a
file of UTF-8, with a mark or without, it always reads the text that is held there.  In one of
16 bits it does unless the text begins like a mark; then it drops those bytes too and goes on
in another encoding (`judged_as_written_iff`).  So one text can get two verdicts
(`two_verdicts_on_one_text`).
-/
import Sparring.Proofs.Program.Loading
import Sparring.Proofs.Text.SecondMark

namespace Sparring.Lint

open Text

variable {files : Files} {path : String} {bytes : List UInt8}

/-- The verdict on what was read in a file. -/
def verdict [Yaml.Reader] (read : Except Utf8.Fault (List Char)) : Checked String Catalog := do
  let text ← read.mapError fun f => .refused f.message
  (Catalog.ofStream (String.ofList text)).mapError fun e =>
    match e.failure with
    | .overflow => .overflow
    | .refused f => .refused f.text

theorem judge_eq_verdict [Yaml.Reader] (hbytes : files path = .ok bytes) :
    judge files path = verdict (decodeFile bytes) := by
  rw [judge, hbytes]
  rfl

/-- A text that does not begin with the character of the mark is read as it was written in each
of four files, unless the file seems to have a second mark.  All files that are read so get the
same verdict. -/
theorem judged_as_written_iff [Yaml.Reader] {text : List Char} (hstart : text.head? ≠ some '\uFEFF') :
    (∀ f : Form, decodeFile (f.bytes text) = .ok text ↔ ¬ f.Misleads text) ∧
      ∀ f g : Form, ¬ f.Misleads text → ¬ g.Misleads text →
        ∀ (files files' : Files) (path path' : String),
          files path = .ok (f.bytes text) → files' path' = .ok (g.bytes text) →
            judge files path = judge files' path' := by
  refine ⟨Form.decodeFile_bytes_iff hstart, ?_⟩
  intro f g hf hg files files' path path' hbytes hbytes'
  calc judge files path = verdict (decodeFile (f.bytes text)) := judge_eq_verdict hbytes
    _ = verdict (.ok text) := by rw [(f.decodeFile_bytes_iff hstart).mpr hf]
    _ = verdict (decodeFile (g.bytes text)) := by rw [(g.decodeFile_bytes_iff hstart).mpr hg]
    _ = judge files' path' := (judge_eq_verdict hbytes').symm

/-- A text that begins like the mark of UTF-8 for two bytes and no more is read in all four
files. -/
theorem judged_as_written_iff_dragon :
    ['\uBBEF', '🐉'].head? ≠ some '\uFEFF' ∧
      (∀ f : Form, ¬ f.Misleads ['\uBBEF', '🐉'] ∧
        decodeFile (f.bytes ['\uBBEF', '🐉']) = .ok ['\uBBEF', '🐉']) ∧
      ∀ f g : Form, judge (holding (f.bytes ['\uBBEF', '🐉'])) "dragon.yaml" =
        judge (holding (g.bytes ['\uBBEF', '🐉'])) "dragon.yaml" := by
  have hstart : ['\uBBEF', '🐉'].head? ≠ some '\uFEFF' := by decide
  have hclear : ∀ f : Form, ¬ f.Misleads ['\uBBEF', '🐉'] := by
    intro f
    cases f with
    | plain => exact id
    | marked e =>
        cases e with
        | utf8 => exact id
        | utf16 o => exact (Utf16.sniff?_encode_iff hstart).mp (by cases o <;> decide)
  obtain ⟨hread, hjudged⟩ := judged_as_written_iff hstart
  refine ⟨hstart, fun f => ⟨hclear f, (hread f).mpr (hclear f)⟩, fun f g => ?_⟩
  exact hjudged f g (hclear f) (hclear g) _ _ _ _ rfl rfl

/-! ### A text that begins like a mark -/

/-- Two characters that begin like the mark of UTF-8 in 16 bits, the low byte first. -/
def lookalike : List Char := ['\uBBEF', '\u7EBF']

/-- What is wrong with a file. -/
def complaint? : Checked String Catalog → Option String
  | .error (.refused text) => some text
  | _ => none

theorem decodeFile_lookalike :
    decodeFile ((Form.marked (.utf16 .little)).bytes lookalike) = .ok ['~'] :=
  rfl

theorem complaints_differ :
    complaint? (verdict (.ok lookalike)) ≠ complaint? (verdict (.ok ['~'])) := by
  decide +kernel

/-- Not every file is read as the text it holds, and not all files of one text get the same
verdict. -/
theorem two_verdicts_on_one_text :
    (¬ ∀ text : List Char, text.head? ≠ some '\uFEFF' → ∀ f : Form,
      decodeFile (f.bytes text) = .ok text) ∧
    ¬ ∀ text : List Char, text.head? ≠ some '\uFEFF' → ∀ f g : Form,
      ∀ (files files' : Files) (path : String),
        files path = .ok (f.bytes text) → files' path = .ok (g.bytes text) →
          judge files path = judge files' path := by
  have hstart : lookalike.head? ≠ some '\uFEFF' := by decide
  refine ⟨?_, ?_⟩
  · intro h
    have hread := h lookalike hstart (.marked (.utf16 .little))
    rw [decodeFile_lookalike, Except.ok.injEq] at hread
    revert hread
    decide
  · intro h
    have hsame := h lookalike hstart .plain (.marked (.utf16 .little)) (holding _) (holding _)
      "bot.yaml" rfl rfl
    have hplain : decodeFile (Form.plain.bytes lookalike) = .ok lookalike :=
      (Form.decodeFile_bytes_iff hstart .plain).mpr id
    rw [judge_eq_verdict rfl, judge_eq_verdict rfl, hplain, decodeFile_lookalike] at hsame
    exact complaints_differ (congrArg complaint? hsame)

end Sparring.Lint
