/-
Which files the linter passes, and which the program loads.

Both make a catalog of a text in the same way, so they can only differ in the text that they
see in a file (`judge_eq_ok_iff`, `Catalog.ofFile_eq_ok_iff`).  The linter looks for a mark at
the start and drops it; the program wants UTF-8 and does not look.  So without a mark they
agree on every file, to the last bot (`judge_iff_of_unmarked`).  With one they need not: a
file of 16 bits is never loaded, and one of UTF-8 is read with the mark as its first character
(`ofFile_iff_of_marked`).  That character takes a column, so it indents the first line of a
table and no other, and the table ends there (`ofStream_indented_sample`).  How a text is taken
apart matters only for that last step; the others hold for any reader of YAML.
-/
import Sparring.Program.Lint
import Sparring.Proofs.Text.Marks

namespace Sparring

variable {files : Files} {path : String} {c : Catalog}

theorem Catalog.ofFile_eq_ok_iff [Yaml.Reader] :
    ofFile files path = .ok c ↔ ∃ bytes, files path = .ok bytes ∧
      ∃ text, Text.Utf8.decode bytes = .ok text ∧ ofStream (String.ofList text) = .ok c := by
  simp only [ofFile, Checked.bind_eq_ok_iff, Checked.mapError_eq_ok_iff]

-- Evaluating a string takes its characters out of its bytes one by one, which is slow.
theorem Yaml.tokens_ofList (cs : List Char) :
    tokens (String.ofList cs) =
      if cs.all isAllowed then Scan.run (cs.length + 2) { cursor := { rest := cs } }
      else [.broken] := by
  rw [tokens, String.toList_ofList]

namespace Lint

open Text

theorem judge_eq_ok_iff [Yaml.Reader] :
    judge files path = .ok c ↔ ∃ bytes, files path = .ok bytes ∧
      ∃ text, decodeFile bytes = .ok text ∧ Catalog.ofStream (String.ofList text) = .ok c := by
  simp only [judge, Checked.bind_eq_ok_iff, Checked.mapError_eq_ok_iff]

/-! ### A file with a mark and one without -/

section File

variable [Yaml.Reader] {bytes rest : List UInt8} {e : Encoding}

theorem judge_iff_of_unmarked (hbytes : files path = .ok bytes)
    (hunmarked : Encoding.sniff? bytes = none) :
    judge files path = .ok c ↔ Catalog.ofFile files path = .ok c := by
  rw [judge_eq_ok_iff, Catalog.ofFile_eq_ok_iff]
  simp only [hbytes, Except.ok.injEq, exists_eq_left', decodeFile_of_unmarked hunmarked]

theorem judge_iff_of_marked (hbytes : files path = .ok (e.mark ++ rest)) :
    judge files path = .ok c ↔
      Catalog.ofStream (String.ofList (decodeMarked e rest)) = .ok c := by
  rw [judge_eq_ok_iff]
  simp only [hbytes, Except.ok.injEq, exists_eq_left', decodeFile_mark_append]

theorem ofFile_iff_of_marked (hbytes : files path = .ok (e.mark ++ rest)) :
    Catalog.ofFile files path = .ok c ↔
      e = .utf8 ∧ ∃ text, Utf8.decode rest = .ok text ∧
        Catalog.ofStream (String.ofList ('\uFEFF' :: text)) = .ok c := by
  rw [Catalog.ofFile_eq_ok_iff]
  simp only [hbytes, Except.ok.injEq, exists_eq_left', Utf8.decode_mark_append_eq_ok_iff]
  refine ⟨?_, ?_⟩
  · intro h
    obtain ⟨_, ⟨he, text, htext, rfl⟩, hc⟩ := h
    exact ⟨he, text, htext, hc⟩
  · intro h
    obtain ⟨he, text, htext, hc⟩ := h
    exact ⟨_, ⟨he, text, htext, rfl⟩, hc⟩

end File

/-- A file without a mark is passed exactly if it is loaded, and as the same catalog.  Behind a
mark the linter reads any bytes, while the program loads nothing but UTF-8, and reads the mark
as a character before it. -/
theorem passed_iff_loaded [Yaml.Reader] {bytes : List UInt8} (hbytes : files path = .ok bytes) :
    (Encoding.sniff? bytes = none →
      ∀ c, judge files path = .ok c ↔ Catalog.ofFile files path = .ok c) ∧
    ∀ e rest, Encoding.sniff? bytes = some (e, rest) → ∀ c,
      (judge files path = .ok c ↔
        Catalog.ofStream (String.ofList (decodeMarked e rest)) = .ok c) ∧
      (Catalog.ofFile files path = .ok c ↔
        e = .utf8 ∧ ∃ text, Utf8.decode rest = .ok text ∧
          Catalog.ofStream (String.ofList ('\uFEFF' :: text)) = .ok c) := by
  refine ⟨?_, ?_⟩
  · intro hunmarked c
    exact judge_iff_of_unmarked hbytes hunmarked
  · intro e rest hmarked c
    rw [Encoding.sniff?_eq_some_iff.mp hmarked] at hbytes
    exact ⟨judge_iff_of_marked hbytes, ofFile_iff_of_marked hbytes⟩

/-! ### A small table -/

/-- A table with one move, line by line. -/
def sampleLines : List String :=
  ["name: Dummy", "difficulty: 1", "moves: {A: {kind: strike}}", "normal:",
    "- {choices: [A,A,A,A,A,A,A,A], hitback: A}",
    "- {choices: [A,A,A,A,A,A,A,A], hitback: A}",
    "- {choices: [A,A,A,A,A,A,A,A], hitback: A}",
    "- {choices: [A,A,A,A,A,A,A,A], hitback: A}",
    "knockdown: {choices: [A,A,A,A,A,A,A,A]}"]

/-- Its text. -/
def sample : List Char := sampleLines.flatMap fun line => line.toList ++ ['\n']

/-- Files that all hold these bytes. -/
def holding (bytes : List UInt8) : Files := fun _ => .ok bytes

theorem decode_sample : Utf8.decode (Utf8.encode sample) = .ok sample :=
  Utf8.decode_eq_ok_iff.mpr (by decide +kernel)

theorem sniff?_sample : Encoding.sniff? (Utf8.encode sample) = none := by decide +kernel

theorem exists_ofStream_sample : ∃ c, Catalog.ofStream (String.ofList sample) = .ok c := by
  apply Checked.exists_eq_ok
  rw [Catalog.ofStream, Table.ofStream, Yaml.reader_documents, Yaml.documents,
    Yaml.tokens_ofList]
  decide +kernel

theorem ofStream_indented_sample :
    (Catalog.ofStream (String.ofList ('\uFEFF' :: sample))).isOk = false := by
  rw [Catalog.ofStream, Table.ofStream, Yaml.reader_documents, Yaml.documents,
    Yaml.tokens_ofList]
  decide +kernel

/-- The table is passed, and it is loaded. -/
theorem passed_iff_loaded_sample :
    holding (Utf8.encode sample) "dummy.yaml" = .ok (Utf8.encode sample) ∧
      ∃ c, judge (holding (Utf8.encode sample)) "dummy.yaml" = .ok c ∧
        Catalog.ofFile (holding (Utf8.encode sample)) "dummy.yaml" = .ok c := by
  refine ⟨rfl, ?_⟩
  obtain ⟨c, hc⟩ := exists_ofStream_sample
  have hjudge : judge (holding (Utf8.encode sample)) "dummy.yaml" = .ok c :=
    judge_eq_ok_iff.mpr
      ⟨_, rfl, _, (decodeFile_of_unmarked sniff?_sample).trans decode_sample, hc⟩
  exact ⟨c, hjudge, ((passed_iff_loaded rfl).1 sniff?_sample c).mp hjudge⟩

/-- With the mark of UTF-8 before it the table is still passed, and no longer loaded. -/
theorem passes_what_is_not_loaded :
    ¬ ∀ (files : Files) (path : String) (c : Catalog),
      judge files path = .ok c → Catalog.ofFile files path = .ok c := by
  intro h
  obtain ⟨c, hc⟩ := exists_ofStream_sample
  have hbytes : holding (Encoding.utf8.mark ++ Utf8.encode sample) "dummy.yaml" =
      .ok (Encoding.utf8.mark ++ Utf8.encode sample) := rfl
  have hpassed : judge (holding (Encoding.utf8.mark ++ Utf8.encode sample)) "dummy.yaml" =
      .ok c := by
    rw [judge_iff_of_marked hbytes, decodeMarked_of_decode sniff?_sample decode_sample]
    exact hc
  obtain ⟨-, text, htext, hloaded⟩ := (ofFile_iff_of_marked hbytes).mp (h _ _ c hpassed)
  obtain rfl : sample = text := Except.ok.inj (decode_sample.symm.trans htext)
  have hfails := ofStream_indented_sample
  rw [hloaded] at hfails
  cases hfails

end Lint

end Sparring
