import ClusterReady.Config.Decode
import ClusterReady.Config.Basic
import ClusterReady.Proofs.Digits

/-!
# Values that are read back

`Yaml.Reads d j a` says that a decoder takes the document `j` for `a`, at any place of a tree.
Texts, truth values and numbers are read back from the documents that are written for them, and so
are optional values and lists of what is read back.  A record is read back from its entries when
each of them is (`reads_record`); entries that may be absent may be left out.
-/

namespace ClusterReady.Yaml

/-! ## Numerals -/

namespace Scalar

theorem natural?_digits {cs : List Char} (hnonempty : cs ≠ [])
    (hdigits : ∀ c ∈ cs, c.isDigit = true) : natural? 10 cs = some (Nat.ofDigitChars 10 cs 0) := by
  have hfold : ∀ start, cs.foldlM (fun n c => do
      let d ← Text.hexValue? c
      if d < 10 then some (n * 10 + d) else none) start =
      some (Nat.ofDigitChars 10 cs start) := by
    clear hnonempty
    induction cs with
    | nil => exact fun _ => rfl
    | cons c cs ih =>
        intro start
        have hc := hdigits c List.mem_cons_self
        have hvalue : Text.hexValue? c = some (c.toNat - '0'.toNat) := by
          rw [Text.hexValue?, if_pos hc]
        have hlt : c.toNat - '0'.toNat < 10 := by
          have hnine : c.toNat ≤ 57 := (Char.isDigit_iff_toNat.mp hc).2
          show c.toNat - 48 < 10
          omega
        rw [List.foldlM_cons, Nat.ofDigitChars_cons, Nat.mul_comm 10 start, hvalue,
          Option.bind_eq_bind, Option.bind_some, if_pos hlt, Option.bind_some]
        exact ih (fun c hmem => hdigits c (List.mem_cons_of_mem _ hmem)) _
  rw [natural?, if_neg (by simpa using hnonempty)]
  exact hfold 0

/-- A decimal numeral has no sign, and a zero in front is all of it. -/
theorem toDigits_front (n : Nat) : ∃ c rest, Nat.toDigits 10 n = c :: rest ∧
    c ≠ '-' ∧ c ≠ '+' ∧ (c = '0' → rest = []) := by
  obtain ⟨c, rest, hdigits, hc⟩ := exists_toDigits_eq_cons n
  refine ⟨c, rest, hdigits, ?_, ?_, ?_⟩
  · rintro rfl
    exact absurd hc (by decide)
  · rintro rfl
    exact absurd hc (by decide)
  · rintro rfl
    exact toDigits_eq_zero_cons hdigits

theorem isPadded_toDigits (n : Nat) : isPadded (Nat.toDigits 10 n) = false := by
  obtain ⟨c, rest, hdigits, hminus, hplus, hzero⟩ := toDigits_front n
  have hbody : isPadded (c :: rest) =
      (decide (1 < (c :: rest).length) && (c :: rest).head? == some '0' &&
        (c :: rest).all Char.isDigit) := by
    rw [isPadded]
    · exact fun _ heq => hminus (List.cons.inj heq).1
    · exact fun _ heq => hplus (List.cons.inj heq).1
  rw [hdigits, hbody]
  by_cases hc : c = '0'
  · rw [hzero hc]
    rfl
  · simp [hc]

theorem based?_toDigits (n : Nat) : based? (Nat.toDigits 10 n) = some n := by
  have hdecimal : natural? 10 (Nat.toDigits 10 n) = some n := by
    rw [natural?_digits Nat.toDigits_ne_nil fun _ => isDigit_of_mem_toDigits,
      Nat.ofDigitChars_ten_toDigits]
  obtain ⟨c, rest, hdigits, -, -, hzero⟩ := toDigits_front n
  have hunmarked (mark : Char) (tail : List Char) : c :: rest ≠ '0' :: mark :: tail := by
    intro heq
    obtain ⟨hc, hrest⟩ := List.cons.inj heq
    rw [hzero hc] at hrest
    exact List.cons_ne_nil _ _ hrest.symm
  rw [hdigits] at hdecimal ⊢
  rw [based?, hdecimal]
  · exact hunmarked 'x'
  · exact hunmarked 'o'
  · exact hunmarked 'b'

theorem natural_repr (n : Nat) : natural n.repr = some n := by
  have hbased := based?_toDigits n
  obtain ⟨c, rest, hdigits, -, hplus, -⟩ := toDigits_front n
  rw [natural, Nat.toList_repr, isPadded_toDigits, if_neg Bool.false_ne_true, hdigits]
  rw [hdigits] at hbased
  split
  · rename_i heq
    exact absurd (List.cons.inj heq).1 hplus
  · exact hbased

theorem isNull_repr (n : Nat) : isNull n.repr = false := by
  have hne (word : String) (hword : ∃ c ∈ word.toList, c.isDigit = false) :
      (n.repr == word) = false := by
    rw [beq_eq_false_iff_ne]
    rintro rfl
    obtain ⟨c, hmem, hc⟩ := hword
    rw [Nat.toList_repr] at hmem
    exact absurd (isDigit_of_mem_toDigits hmem) (by simp [hc])
  rw [isNull, hne _ ⟨'n', by simp, by decide⟩, hne _ ⟨'N', by simp, by decide⟩,
    hne _ ⟨'N', by simp, by decide⟩, hne _ ⟨'~', by simp, by decide⟩]
  rfl

end Scalar

/-! ## Values -/

/-- At any place of a tree, the decoder takes the document `j` for `a`. -/
def Reads {α : Type} (d : Decoder α) (j : Json) (a : α) : Prop :=
  ∀ path, d path (Node.ofJson j) = .ok a

theorem reads_string (s : String) : Reads string (.str s) s := fun _ => rfl

theorem reads_boolean (b : Bool) : Reads boolean (.bool b) b := by
  intro path
  cases b <;> rfl

theorem ofJson_natural (n : Nat) : Node.ofJson (.int n) = .scalar n.repr .plain none := by
  rw [Node.ofJson]
  rfl

theorem reads_word {bits : Nat} (expected : String) {n : Nat} (hfits : n < Nat.pow 2 bits)
    (hword : n < UInt64.size) : Reads (word bits expected) (.int n) n := by
  intro path
  rw [ofJson_natural, word]
  simp only [isLiteral, BEq.rfl, Bool.true_or, if_true, Scalar.natural_repr]
  rw [if_neg (by omega), if_pos hfits]

theorem reads_word32 (n : UInt32) : Reads word32 (.int n.toNat) n.toNat :=
  reads_word "u32" n.toNat_lt (Nat.lt_trans n.toNat_lt (by decide))

theorem reads_seconds (n : UInt64) : Reads seconds (.int n.toNat) n := by
  intro path
  rw [seconds, word64, reads_word "u64" n.toNat_lt n.toNat_lt path]
  simp [Except.map]

theorem reads_variant {α : Type} {choices : List (String × α)} {name : String} {a : α}
    (h : choices.lookup name = some a) : Reads (variant choices) (.str name) a := by
  intro path
  rw [Node.ofJson, variant]
  simp only [Tag.local?, Option.map_none, h]

/-! ### Optional values and lists -/

/-- No decoder takes this document for nothing at all. -/
def Shown (j : Json) : Prop :=
  ∀ {α : Type} (d : Decoder α) (path : String),
    nullable d path (Node.ofJson j) = (d path (Node.ofJson j)).map some

theorem shown_str (s : String) : Shown (.str s) := fun _ _ => rfl

theorem shown_natural (n : Nat) : Shown (.int n) := by
  intro α d path
  rw [ofJson_natural, nullable]
  simp only [Scalar.isNull_repr, Bool.or_false]
  rw [if_neg (by simp)]

theorem shown_obj (fields : List (String × Json)) : Shown (.obj fields) := fun _ _ => rfl

/-- An optional value, of which nothing is written as `null`. -/
theorem Reads.option {α : Type} {d : Decoder α} {write : α → Json}
    (hread : ∀ a, Reads d (write a) a) (hshown : ∀ a, Shown (write a)) :
    ∀ o, Reads (nullable d) (.ofOption write o) o
  | none, _ => rfl
  | some a, path => by
    rw [Json.ofOption, hshown a d path, hread a path]
    rfl

theorem Reads.list {α : Type} {d : Decoder α} {write : α → Json}
    (hread : ∀ a, Reads d (write a) a) (items : List α) :
    Reads (listOf d) (.arr (items.map write)) items := by
  have hitems (path : String) (index : Nat) :
      eachItem d path index (Node.ofItems (items.map write)) = .ok items := by
    induction items generalizing index with
    | nil => rfl
    | cons a items ih =>
        rw [List.map_cons, Node.ofItems, eachItem, hread a, ih]
        rfl
  intro path
  rw [Node.ofJson, listOf]
  exact hitems path 0

/-! ## Records -/

theorem ofFields_eq_map (entries : List (String × Json)) :
    Node.ofFields entries = entries.map fun e => (.scalar e.1 .quoted none, Node.ofJson e.2) := by
  induction entries with
  | nil => rfl
  | cons entry entries ih => rw [Node.ofFields, ih, List.map_cons]

section

variable {α : Type} {fields : List (Field α)} {written : List (String × Json)} {puts : α → α}

/-- The entries that are written for fields, in their order, and what they make of a record.  A
field is left out only where its absence changes nothing. -/
inductive Written : List (Field α) → List (String × Json) → (α → α) → Prop
  | nil : Written [] [] id
  | entry {field : Field α} {fields : List (Field α)} {j : Json} {written : List (String × Json)}
      {put puts : α → α} (read : Reads field.read j put) (rest : Written fields written puts) :
      Written (field :: fields) ((field.name, j) :: written) (puts ∘ put)
  | leftOut {field : Field α} {fields : List (Field α)} {written : List (String × Json)}
      {puts : α → α} (absent : field.absent = some id) (rest : Written fields written puts) :
      Written (field :: fields) written puts

theorem Reads.required {β : Type} {name : String} {d : Decoder β} {put : β → α → α} {j : Json}
    {b : β} (h : Reads d j b) : Reads (Field.required name d put).read j (put b) := by
  intro path
  show (d path (Node.ofJson j)).map put = .ok (put b)
  rw [h path]
  rfl

theorem Reads.optional {β : Type} {name : String} {d : Decoder β} {put : β → α → α} {j : Json}
    {b : β} (h : Reads d j b) : Reads (Field.optional name d put).read j (put b) := by
  intro path
  show (d path (Node.ofJson j)).map put = .ok (put b)
  rw [h path]
  rfl

theorem fillAbsent_eq {path : String} {a : α} {seen : List String}
    (h : ∀ field ∈ fields, field.name ∈ seen ∨ field.absent = some id) :
    fillAbsent path a seen fields = .ok a := by
  induction fields with
  | nil => rfl
  | cons field fields ih =>
      have hrest := ih fun f hmem => h f (List.mem_cons_of_mem _ hmem)
      rw [fillAbsent]
      by_cases hseen : field.name ∈ seen
      · rw [if_pos (by simpa using hseen)]
        exact hrest
      · have habsent := (h field List.mem_cons_self).resolve_left hseen
        rw [if_neg (by simpa using hseen), habsent]
        exact hrest

theorem Written.name_mem (h : Written fields written puts) :
    ∀ entry ∈ written, entry.1 ∈ fields.map Field.name := by
  induction h with
  | nil => exact fun _ hmem => absurd hmem List.not_mem_nil
  | entry _ _ ih =>
      intro entry hmem
      rcases List.mem_cons.mp hmem with rfl | hrest
      · exact List.mem_cons_self
      · exact List.mem_cons_of_mem _ (ih entry hrest)
  | leftOut _ _ ih => exact fun entry hmem => List.mem_cons_of_mem _ (ih entry hmem)

theorem eachEntry_field {field : Field α} {j : Json} {put : α → α} {other : String → α → Decoder α}
    {path : String} {a : α} {seen : List String} {rest : List (Node × Node)}
    (hfind : fields.find? (·.name == field.name) = some field) (hunseen : field.name ∉ seen)
    (hread : Reads field.read j put) :
    eachEntry fields other path a seen
        ((.scalar field.name .quoted none, Node.ofJson j) :: rest) =
      eachEntry fields other path (put a) (field.name :: seen) rest := by
  have hcontains : seen.contains field.name = false := by simpa using hunseen
  have hput := hread (fieldPath path field.name)
  simp only [eachEntry, fieldName, bind, Except.bind, hfind, hcontains, Bool.false_eq_true,
    if_false, hput, Except.mapError]

/-- Entries that are of no field go to the reader of other entries, one after the other. -/
theorem eachEntry_others {entries : List (String × Json)} {step : α → String × Json → α}
    {other : String → α → Decoder α} {path : String} {a : α} {seen : List String}
    {rest : List (Node × Node)}
    (hnone : ∀ entry ∈ entries, fields.find? (·.name == entry.1) = none)
    (hother : ∀ entry ∈ entries, ∀ a, Reads (other entry.1 a) entry.2 (step a entry)) :
    eachEntry fields other path a seen (Node.ofFields entries ++ rest) =
      eachEntry fields other path (entries.foldl step a) seen rest := by
  induction entries generalizing a with
  | nil => rfl
  | cons entry entries ih =>
      have hfirst := hother entry List.mem_cons_self a
      simp only [Node.ofFields, List.cons_append, eachEntry, fieldName, bind, Except.bind,
        hnone entry List.mem_cons_self, hfirst (fieldPath path entry.1)]
      exact ih (fun e hmem => hnone e (List.mem_cons_of_mem _ hmem))
        (fun e hmem => hother e (List.mem_cons_of_mem _ hmem))

/-- The entries of the fields that are still to come complete the record. -/
theorem eachEntry_written {todo : List (Field α)} (h : Written todo written puts)
    {other : String → α → Decoder α} {path : String} {a : α} (done : List (Field α))
    {seen : List String} (hnames : ((done ++ todo).map Field.name).Nodup)
    (hdone : ∀ field ∈ done, field.name ∈ seen ∨ field.absent = some id)
    (hseen : ∀ name ∈ seen, name ∈ done.map Field.name) :
    eachEntry (done ++ todo) other path a seen (Node.ofFields written) = .ok (puts a) := by
  induction h generalizing done seen a with
  | nil =>
      rw [Node.ofFields, eachEntry, List.append_nil]
      exact fillAbsent_eq hdone
  | @entry field todo j written put puts read rest ih =>
      have hnew : field.name ∉ done.map Field.name := by
        rw [List.map_append, List.map_cons] at hnames
        exact fun hmem => (List.nodup_append.mp hnames).2.2 _ hmem _ List.mem_cons_self rfl
      have hfind : (done ++ field :: todo).find? (·.name == field.name) = some field := by
        have hnone : done.find? (·.name == field.name) = none := by
          refine List.find?_eq_none.mpr fun f hmem heq => hnew ?_
          exact List.mem_map.mpr ⟨f, hmem, by simpa using heq⟩
        simp [List.find?_append, hnone]
      rw [Node.ofFields, eachEntry_field hfind (fun hmem => hnew (hseen _ hmem)) read,
        List.append_cons]
      refine ih _ (by rwa [← List.append_cons]) (fun f hmem => ?_) (fun name hmem => ?_)
      · rcases List.mem_append.mp hmem with hold | hlast
        · exact (hdone f hold).imp_left (List.mem_cons_of_mem _)
        · exact .inl (by simp [List.mem_singleton.mp hlast])
      · rw [List.map_append, List.mem_append]
        rcases List.mem_cons.mp hmem with rfl | hold
        · exact .inr List.mem_cons_self
        · exact .inl (hseen name hold)
  | @leftOut field todo written puts absent rest ih =>
      rw [List.append_cons]
      refine ih _ (by rwa [← List.append_cons]) (fun f hmem => ?_) (fun name hmem => ?_)
      · rcases List.mem_append.mp hmem with hold | hlast
        · exact hdone f hold
        · exact .inr (by rw [List.mem_singleton.mp hlast, absent])
      · rw [List.map_append, List.mem_append]
        exact .inl (hseen name hmem)

theorem Written.eachEntry (h : Written fields written puts)
    (hnames : (fields.map Field.name).Nodup) (other : String → α → Decoder α) (path : String)
    (start : α) :
    Yaml.eachEntry fields other path start [] (Node.ofFields written) = .ok (puts start) := by
  refine eachEntry_written h [] hnames ?_ ?_
  · exact fun _ hmem => absurd hmem List.not_mem_nil
  · exact fun _ hmem => absurd hmem List.not_mem_nil

/-- Fields that are written behind entries of other names complete what those have made. -/
theorem Written.eachEntry_behind (h : Written fields written puts)
    (hnames : (fields.map Field.name).Nodup) {others : List (String × Json)}
    {step : α → String × Json → α} {other : String → α → Decoder α}
    (hnone : ∀ entry ∈ others, fields.find? (·.name == entry.1) = none)
    (hother : ∀ entry ∈ others, ∀ a, Reads (other entry.1 a) entry.2 (step a entry))
    (path : String) (start : α) :
    Yaml.eachEntry fields other path start [] (Node.ofFields (others ++ written)) =
      .ok (puts (others.foldl step start)) := by
  have happend : Node.ofFields (others ++ written) =
      Node.ofFields others ++ Node.ofFields written := by
    rw [ofFields_eq_map, List.map_append, ← ofFields_eq_map, ← ofFields_eq_map]
  rw [happend, eachEntry_others hnone hother]
  exact h.eachEntry hnames other path _

theorem reads_record {type : String} {start : α} (h : Written fields written puts)
    (hnames : (fields.map Field.name).Nodup) :
    Reads (record type start fields) (.obj written) (puts start) := by
  intro path
  rw [Node.ofJson, record]
  exact h.eachEntry hnames _ path start

end

end ClusterReady.Yaml
