/-
Reading back a record that was written field by field.

A record is written with all its fields, in the order in which its reader lists them.  So
entries and fields go hand in hand: each entry is for the field in its place, and each field
finds the record as the fields before it left it.  `Reads` says that of some fields and some
entries, and from parts of a record it can be put together for the whole.

`fill_of_reads` is what it is for.  The reader looks every field up by its key and minds
which keys it has seen, and as no two fields have the same key, that comes to the same.
Entries that are no fields may stand in between (`fill_others`).
-/
import Mathlib.Data.List.Nodup
import Sparring.Reading.Record

namespace Sparring.Record

variable {α β κ σ τ ι : Type}

/-- Entries for fields in their order, and the records before and after they are read. -/
inductive Reads : List (Field α σ) → List (String × α) → σ → σ → Prop where
  | nil (s : σ) : Reads [] [] s s
  | cons {f : Field α σ} {fs : List (Field α σ)} {v : α} {es : List (String × α)} {s t u : σ}
      (hread : f.read s v = .ok t) (h : Reads fs es t u) : Reads (f :: fs) ((f.key, v) :: es) s u

variable {f : Field α σ} {fs gs fields : List (Field α σ)} {es ds : List (String × α)}
  {s t u : σ}

/-! ### Putting fields together -/

theorem read_of {key : String} {read : α → Reading β} {set : σ → β → σ} {v : α} {b : β}
    (h : read v = .ok b) (s : σ) : (Field.of key read set).read s v = .ok (set s b) := by
  simp [Field.of, h, Reading.within, Except.mapError, bind, Except.bind, pure, Except.pure]

theorem Reads.append (h : Reads fs es s t) (h' : Reads gs ds t u) :
    Reads (fs ++ gs) (es ++ ds) s u := by
  induction h with
  | nil => exact h'
  | cons hread _ ih => exact .cons hread (ih h')

/-- A family of fields, each read in the same way. -/
theorem Reads.map {field : ι → Field α σ} {value : ι → α} {set : σ → ι → σ}
    (h : ∀ i s, (field i).read s (value i) = .ok (set s i)) (is : List ι) (s : σ) :
    Reads (is.map field) (is.map fun i => ((field i).key, value i)) s (is.foldl set s) := by
  induction is generalizing s with
  | nil => exact .nil s
  | cons i is ih => exact .cons (h i s) (ih (set s i))

/-- Fields of a part, as fields of the whole. -/
theorem Reads.lift {get : τ → σ} {set : τ → σ → τ} (hget : ∀ x s, get (set x s) = s)
    (hset : ∀ x s t, set (set x s) t = set x t) (x : τ) (h : Reads fs es s t) :
    Reads (fs.map (.lift get set)) es (set x s) (set x t) := by
  induction h with
  | nil s => exact .nil (set x s)
  | cons hread _ ih =>
      refine .cons ?_ ih
      simp [Field.lift, hget, hset, hread, bind, Except.bind, pure, Except.pure]

theorem Reads.keys (h : Reads fs es s t) : es.map (·.1) = fs.map (·.key) := by
  induction h with
  | nil => rfl
  | cons _ _ ih => rw [List.map_cons, List.map_cons, ih]

/-! ### Filling in a record -/

theorem find?_key (hkeys : (fields.map (·.key)).Nodup) (hf : f ∈ fields) :
    fields.find? (fun g => g.key = f.key) = some f := by
  induction fields with
  | nil => cases hf
  | cons g fields ih =>
      obtain ⟨hg, hfields⟩ := List.nodup_cons.mp hkeys
      rcases List.mem_cons.mp hf with rfl | hmem
      · exact List.find?_cons_of_pos (by simp)
      · have hne : g.key ≠ f.key := by
          intro heq
          exact hg (List.mem_map.mpr ⟨f, hmem, heq.symm⟩)
        rw [List.find?_cons_of_neg (by simpa using hne), ih hfields hmem]

theorem find?_key_eq_none {name : String} (h : name ∉ fields.map (·.key)) :
    fields.find? (fun g => g.key = name) = none := by
  rw [List.find?_eq_none]
  intro g hg heq
  exact h (List.mem_map.mpr ⟨g, hg, by simpa using heq⟩)

/-- Keys may be wrapped up, as long as they can be unwrapped. -/
theorem fill_key {key : κ → Except Cause String} {wrap : String → κ}
    (hkey : ∀ name, key (wrap name) = .ok name) (other : String → α → Reading β)
    (seen : List String) (s : σ) (es : List (String × α)) :
    fill key fields other seen s (es.map fun e => (wrap e.1, e.2)) =
      fill .ok fields other seen s es := by
  induction es generalizing seen s with
  | nil => rfl
  | cons e es ih =>
      obtain ⟨name, v⟩ := e
      rw [List.map_cons, fill, fill, hkey]
      simp only [ih]

/-- Entries that go with their fields are read like these, whatever comes behind them. -/
theorem fill_of_reads (hkeys : (fields.map (·.key)).Nodup) (h : Reads fs es s t)
    (hfs : fs ⊆ fields) {seen : List String} (hseen : ((fs.map (·.key)).reverse ++ seen).Nodup)
    (other : String → α → Reading β) (rest : List (String × α)) :
    fill .ok fields other seen s (es ++ rest) =
      fill .ok fields other ((fs.map (·.key)).reverse ++ seen) t rest := by
  induction h generalizing seen with
  | nil => rfl
  | @cons f fs v es s t u hread _ ih =>
      have hf : f ∈ fields := hfs (by simp)
      -- The keys that are seen grow from the front, so the next key moves to the other side.
      rw [List.map_cons, List.reverse_cons, List.append_assoc] at hseen ⊢
      have hnew : f.key ∉ seen := (List.nodup_cons.mp (List.nodup_append.mp hseen).2.1).1
      rw [List.cons_append, fill]
      simp only [Reading.here, Except.mapError, bind, Except.bind, find?_key hkeys hf,
        if_neg hnew, hread]
      exact ih (fun g hg => hfs (by simp [hg])) hseen

/-- Entries that are no fields are put aside. -/
theorem fill_others {other : String → α → Reading β} {out : String × α → β}
    (hother : ∀ e ∈ es, other e.1 e.2 = .ok (out e))
    (hes : ∀ e ∈ es, e.1 ∉ fields.map (·.key)) (seen : List String) (s : σ)
    (rest : List (String × α)) :
    fill .ok fields other seen s (es ++ rest) =
      (fill .ok fields other seen s rest).map fun r => (r.1, es.map out ++ r.2) := by
  induction es with
  | nil =>
      rw [List.nil_append]
      cases fill .ok fields other seen s rest <;> rfl
  | cons e es ih =>
      rw [List.cons_append, fill]
      simp only [Reading.here, Except.mapError, bind, Except.bind,
        find?_key_eq_none (hes e (by simp)), hother e (by simp)]
      rw [ih (fun d hd => hother d (by simp [hd])) fun d hd => hes d (by simp [hd])]
      cases fill .ok fields other seen s rest <;> rfl

/-- Nothing is left over when the last entries go with their fields. -/
theorem fill_last (hkeys : (fields.map (·.key)).Nodup) (h : Reads fs es s t) (hfs : fs ⊆ fields)
    {seen : List String} (hseen : ((fs.map (·.key)).reverse ++ seen).Nodup)
    (other : String → α → Reading β) : fill .ok fields other seen s es = .ok (t, []) := by
  have hfill := fill_of_reads hkeys h hfs hseen other []
  rw [List.append_nil] at hfill
  rw [hfill]
  rfl

/-- A record of all the fields is filled in by them. -/
theorem fill_record (hkeys : (fields.map (·.key)).Nodup) (h : Reads fields es s t)
    (other : String → α → Reading β) : fill .ok fields other [] s es = .ok (t, []) := by
  refine fill_last hkeys h (List.Subset.refl fields) ?_ other
  rw [List.append_nil]
  exact List.nodup_reverse.mpr hkeys

variable {fields : List (Field Datum σ)} {es : List (String × Datum)}

theorem strict_record (wanted : String) (hkeys : (fields.map (·.key)).Nodup)
    (h : Reads fields es s t) : strict wanted fields s (Datum.record es) = .ok t := by
  have hkey : ∀ name, Source.key Wanted.key (Datum.text name) = .ok name := fun _ => rfl
  show (fill (Source.key Wanted.key) fields _ [] s _ >>= _) = _
  rw [fill_key hkey, fill_record hkeys h]
  rfl

theorem lenient_record (hkeys : (fields.map (·.key)).Nodup) (h : Reads fields es s t) :
    lenient fields s (es.map fun e => (Datum.text e.1, e.2)) = .ok t := by
  have hkey : ∀ name, Source.key Wanted.key (Datum.text name) = .ok name := fun _ => rfl
  show (fill (Source.key Wanted.key) fields _ [] s _ >>= _) = _
  rw [fill_key hkey, fill_record hkeys h]
  rfl

end Sparring.Record
