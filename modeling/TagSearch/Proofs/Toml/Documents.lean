import TagSearch.Proofs.Toml.Numbers

/-!
# Reading documents back

A document of sections is read back as the tables of its sections, line by line: a heading adds an
empty table, and an entry goes to the end of the last table.

* `Draft.ofTables`: a document of which some tables are read.
* `Reads`: reading some lines takes one document to another.
* `read_writeDocument`: a document is read back from how it is written.
-/

namespace TagSearch.Toml

variable {s rest : List Char} {name key : String} {done : List (String × Table)} {t : Table}

/-! ## Tables -/

/-- A document that consists of tables. -/
def ofTables (tables : List (String × Table)) : Table := tables.map fun p => (p.1, .table p.2)

theorem Table.set_of_notMem {v : Value} (h : key ∉ t.map (·.1)) :
    Table.set key v t = t ++ [(key, v)] := by
  induction t with
  | nil => rfl
  | cons e t ih =>
    rw [List.map_cons, List.mem_cons, not_or] at h
    rw [Table.set, if_neg (Ne.symm h.1), ih h.2, List.cons_append]

theorem Table.set_append {v : Value} {t' : Table} (h : key ∉ t.map (·.1)) :
    Table.set key v (t ++ t') = t ++ Table.set key v t' := by
  induction t with
  | nil => rfl
  | cons e t ih =>
    rw [List.map_cons, List.mem_cons, not_or] at h
    rw [List.cons_append, Table.set, if_neg (Ne.symm h.1), ih h.2, List.cons_append]

theorem names_ofTables (tables : List (String × Table)) :
    (ofTables tables).map (·.1) = tables.map (·.1) := by
  rw [ofTables, List.map_map]
  rfl

theorem ofTables_concat (done : List (String × Table)) (name : String) (t : Table) :
    ofTables (done ++ [(name, t)]) = ofTables done ++ [(name, .table t)] := by
  rw [ofTables, List.map_append]
  rfl

/-- A heading adds an empty table. -/
theorem modifyAt_ofTables (new : name ∉ done.map (·.1)) :
    Table.modifyAt true some [name] (ofTables done) = some (ofTables (done ++ [(name, [])])) := by
  rw [← names_ofTables] at new
  rw [Table.modifyAt, lookup_eq_none_of_notMem new, ofTables_concat, ← Table.set_of_notMem new]
  rfl

/-- An entry goes to the end of the last table. -/
theorem modifyAt_insertNew {v : Value} (last : name ∉ done.map (·.1))
    (new : key ∉ t.map (·.1)) :
    Table.modifyAt true (Table.insertNew key v) [name] (ofTables (done ++ [(name, t)])) =
      some (ofTables (done ++ [(name, t ++ [(key, v)])])) := by
  rw [← names_ofTables] at last
  have found : (ofTables done ++ [(name, Value.table t)]).lookup name = some (.table t) := by
    rw [List.lookup_append, lookup_eq_none_of_notMem last]
    simp
  rw [ofTables_concat, ofTables_concat, Table.modifyAt, found]
  dsimp only
  rw [Table.modifyAt, Table.insertNew, lookup_eq_none_of_notMem new, if_neg (by simp),
    Option.map_some, Table.set_append last]
  simp [Table.set]

/-! ## Steps -/

namespace Draft

/-- A document of which some tables are read, the last one being open. -/
def ofTables (tables : List (String × Table)) : Draft where
  root := Toml.ofTables tables
  heading := (tables.getLast?.map (·.1)).toList
  closed := []
  opened := (tables.map fun p => [p.1]).reverse
  dotted := []

theorem ofTables_nil : ofTables [] = empty := rfl

/-- A heading with a new name opens a table. -/
theorem openTable_ofTables (new : name ∉ done.map (·.1)) :
    (ofTables done).settle.openTable [name] = some (ofTables (done ++ [(name, [])])) := by
  have free : (ofTables done).opened.contains [name] = false := by
    simpa [ofTables] using new
  have root : Table.modifyAt true some [name] (ofTables done).root =
      some (Toml.ofTables (done ++ [(name, [])])) := modifyAt_ofTables new
  have settled : (ofTables done).settle = ofTables done := rfl
  rw [settled, openTable, free, root]
  simp [ofTables, covers]

/-- A new key goes to the table that is open. -/
theorem assign_ofTables {v : Value} (last : name ∉ done.map (·.1))
    (new : key ∉ t.map (·.1)) (flat : v.isContainer = false) :
    (ofTables (done ++ [(name, t)])).assign [key] v =
      some (ofTables (done ++ [(name, t ++ [(key, v)])])) := by
  have heading : (ofTables (done ++ [(name, t)])).heading = [name] := by simp [ofTables]
  have root : Table.modifyAt true (Table.insertNew key v) [name]
      (ofTables (done ++ [(name, t)])).root =
      some (Toml.ofTables (done ++ [(name, t ++ [(key, v)])])) := modifyAt_insertNew last new
  rw [assign, heading]
  simp [splitKey, covers, root, flat]
  simp [ofTables]

end Draft

/-! ## Lines -/

/-- Reading lines takes a document to another one, and leaves the rest of the text. -/
def Reads (d : Draft) (s : List Char) (d' : Draft) (rest : List Char) : Prop :=
  ∀ fuel, s.length < fuel →
    ∃ fuel', rest.length < fuel' ∧ readLines fuel d s = readLines fuel' d' rest

theorem Reads.refl (d : Draft) (s : List Char) : Reads d s d s :=
  fun fuel room => ⟨fuel, room, rfl⟩

theorem Reads.trans {d d' d'' : Draft} {s s' s'' : List Char} (h : Reads d s d' s')
    (h' : Reads d' s' d'' s'') : Reads d s d'' s'' := by
  intro fuel room
  obtain ⟨fuel', room', same⟩ := h fuel room
  obtain ⟨fuel'', room'', same'⟩ := h' fuel' room'
  exact ⟨fuel'', room'', same.trans same'⟩

/-- A blank line. -/
theorem reads_blank (d : Draft) (rest : List Char) : Reads d ('\n' :: rest) d rest := by
  intro fuel room
  obtain ⟨fuel, rfl⟩ := Nat.exists_eq_add_of_lt (Nat.zero_lt_of_lt room)
  exact ⟨fuel, by simp only [List.length_cons] at room; omega, by rw [Nat.zero_add]; rfl⟩

/-- A line of which nothing is left. -/
theorem reads_line {d d' : Draft} {c : Char} (blank : isSpace c = false) (feed : c ≠ '\n')
    (comment : c ≠ '#') (h : readLine d (c :: s) = .ok (d', '\n' :: rest))
    (shorter : rest.length ≤ s.length) : Reads d (c :: s) d' rest := by
  intro fuel room
  obtain ⟨fuel, rfl⟩ := Nat.exists_eq_add_of_lt (Nat.zero_lt_of_lt room)
  refine ⟨fuel, by simp only [List.length_cons] at room; omega, ?_⟩
  have start : skipSpaces (c :: s) = c :: s := dropWhile_of_head? (by simpa using blank)
  rw [Nat.zero_add, readLines, start]
  split
  · contradiction
  · rename_i same
    exact (feed (List.cons.inj same).1).elim
  · rename_i same
    exact (comment (List.cons.inj same).1).elim
  · rw [h]
    rfl

theorem ne_of_isBareKey {c d : Char} (bare : isBareKey c = true) (other : isBareKey d = false) :
    c ≠ d := by
  rintro rfl
  exact absurd (bare.symm.trans other) (by decide)

theorem isSpace_of_isBareKey {c : Char} (bare : isBareKey c = true) : isSpace c = false := by
  rw [isSpace, beq_eq_false_iff_ne.2 (ne_of_isBareKey bare rfl),
    beq_eq_false_iff_ne.2 (ne_of_isBareKey bare rfl)]
  rfl

/-- **A heading** opens a table. -/
theorem reads_heading (bare : IsBare name) (new : name ∉ done.map (·.1)) (rest : List Char) :
    Reads (.ofTables done) ('[' :: name.toList ++ [']', '\n'] ++ rest)
      (.ofTables (done ++ [(name, [])])) rest := by
  obtain ⟨c, t, chars, first⟩ := bare.exists_cons
  have start : skipSpaces (name.toList ++ ']' :: '\n' :: rest) =
      name.toList ++ ']' :: '\n' :: rest :=
    dropWhile_of_head? (by simpa [chars] using isSpace_of_isBareKey first)
  have key : readKey (name.toList ++ ']' :: '\n' :: rest) = .ok ([name], ']' :: '\n' :: rest) :=
    readKey_of_isBare bare (by rintro _ ⟨⟩; rfl) (by rintro _ ⟨⟩; decide)
  have line : readLine (.ofTables done) ('[' :: (name.toList ++ ']' :: '\n' :: rest)) =
      .ok (.ofTables (done ++ [(name, [])]), '\n' :: rest) := by
    rw [readLine.eq_def]
    split
    · rename_i same
      rw [chars, List.cons_append] at same
      simp only [List.cons.injEq, true_and] at same
      exact (ne_of_isBareKey first rfl same.1).elim
    · rename_i same
      obtain ⟨-, rfl⟩ := List.cons.inj same
      rw [start, key]
      simp only [bind, Except.bind, Draft.openTable_ofTables new]
      rfl
    · rename_i other
      exact (other _ rfl).elim
  have text : '[' :: name.toList ++ [']', '\n'] ++ rest =
      '[' :: (name.toList ++ ']' :: '\n' :: rest) := by
    simp
  rw [text]
  exact reads_line rfl (by decide) (by decide) line (by simp; omega)

/-- A key with its value. -/
theorem readPair_writeEntry (bare : IsBare key) {v : Scalar} (readable : v.IsReadable)
    (rest : List Char) :
    readPair (writeEntry (key, v) ++ rest) = .ok (([key], v.toValue), '\n' :: rest) := by
  have text : writeEntry (key, v) ++ rest =
      key.toList ++ ' ' :: '=' :: ' ' :: (v.write ++ '\n' :: rest) := by
    simp [writeEntry]
  have read : readKey (key.toList ++ ' ' :: '=' :: ' ' :: (v.write ++ '\n' :: rest)) =
      .ok ([key], '=' :: ' ' :: (v.write ++ '\n' :: rest)) :=
    readKey_of_isBare bare (by rintro _ ⟨⟩; rfl) (by rintro _ ⟨⟩; decide)
  obtain ⟨c, t, first, array, table, blank⟩ := exists_write_eq_cons v
  have start : skipSpaces (' ' :: (v.write ++ '\n' :: rest)) = v.write ++ '\n' :: rest := by
    rw [skipSpaces, List.dropWhile_cons_of_pos rfl]
    exact dropWhile_of_head? (by simpa [first] using blank)
  have value (fuel room : Nat) : readValue (fuel + 1) room (v.write ++ '\n' :: rest) =
      .ok (v.toValue, '\n' :: rest) := by
    have scalar := readScalar_write readable rest
    rw [first, List.cons_append] at scalar ⊢
    rw [readValue]
    · exact scalar
    · rintro r same
      exact array (List.cons.inj same).1
    · rintro r same
      exact table (List.cons.inj same).1
  rw [text, readPair, read]
  simp only [bind, Except.bind, start, value]
  rfl

/-- **An entry** goes to the table that is open. -/
theorem reads_entry (last : name ∉ done.map (·.1)) (bare : IsBare key) (new : key ∉ t.map (·.1))
    {v : Scalar} (readable : v.IsReadable) (rest : List Char) :
    Reads (.ofTables (done ++ [(name, t)])) (writeEntry (key, v) ++ rest)
      (.ofTables (done ++ [(name, t ++ [(key, v.toValue)])])) rest := by
  obtain ⟨c, chars, text, first⟩ := bare.exists_cons
  have flat : v.toValue.isContainer = false := by cases v <;> rfl
  have pair := readPair_writeEntry bare readable rest
  have start : writeEntry (key, v) ++ rest =
      c :: (chars ++ [' ', '=', ' '] ++ v.write ++ '\n' :: rest) := by
    simp [writeEntry, text]
  rw [start] at pair ⊢
  have line : readLine (.ofTables (done ++ [(name, t)]))
      (c :: (chars ++ [' ', '=', ' '] ++ v.write ++ '\n' :: rest)) =
      .ok (.ofTables (done ++ [(name, t ++ [(key, v.toValue)])]), '\n' :: rest) := by
    rw [readLine]
    · rw [pair]
      simp only [bind, Except.bind, Draft.assign_ofTables last new flat]
      rfl
    · rintro r same
      exact ne_of_isBareKey first rfl (List.cons.inj same).1
    · rintro r same
      exact ne_of_isBareKey first rfl (List.cons.inj same).1
  refine reads_line (isSpace_of_isBareKey first) (ne_of_isBareKey first rfl)
    (ne_of_isBareKey first rfl) line ?_
  simp
  omega

/-! ## Sections -/

/-- A section that can be read back: its name and its keys need no quotes, no key comes twice, and
its values can be read back. -/
structure Section.IsReadable (s : Section) : Prop where
  name : IsBare s.name
  keys : ∀ entry ∈ s.entries, IsBare entry.1
  distinct : (s.entries.map (·.1)).Nodup
  values : ∀ entry ∈ s.entries, entry.2.IsReadable

/-- A section as a table under its name. -/
def Section.named (s : Section) : String × Table := (s.name, s.toTable)

/-- The entries of a section, of which the first ones are read. -/
theorem reads_entries (last : name ∉ done.map (·.1)) {entries : List (String × Scalar)}
    (keys : ∀ entry ∈ entries, IsBare entry.1) (values : ∀ entry ∈ entries, entry.2.IsReadable)
    (distinct : (t.map (·.1) ++ entries.map (·.1)).Nodup) (rest : List Char) :
    Reads (.ofTables (done ++ [(name, t)])) (entries.flatMap writeEntry ++ rest)
      (.ofTables (done ++ [(name, t ++ entries.map fun (k, v) => (k, v.toValue))])) rest := by
  induction entries generalizing t with
  | nil =>
    rw [List.map_nil, List.append_nil]
    exact .refl _ _
  | cons entry entries ih =>
    obtain ⟨key, v⟩ := entry
    obtain ⟨bare, keys⟩ := List.forall_mem_cons.1 keys
    obtain ⟨readable, values⟩ := List.forall_mem_cons.1 values
    have new : key ∉ t.map (·.1) := fun mem =>
      List.disjoint_of_nodup_append distinct mem List.mem_cons_self
    have first := reads_entry last bare new readable (entries.flatMap writeEntry ++ rest)
    have others := ih (t := t ++ [(key, v.toValue)]) keys values (by simpa using distinct)
    rw [List.flatMap_cons, List.append_assoc]
    refine first.trans ?_
    simpa using others

/-- **A section** is read as a table under its name. -/
theorem reads_section {s : Section} (readable : s.IsReadable) (new : s.name ∉ done.map (·.1))
    (rest : List Char) :
    Reads (.ofTables done) (s.write ++ rest) (.ofTables (done ++ [s.named])) rest := by
  have heading := reads_heading readable.name new (s.entries.flatMap writeEntry ++ rest)
  have entries := reads_entries (t := []) new readable.keys readable.values readable.distinct rest
  rw [Section.write, List.append_assoc]
  exact heading.trans entries

/-- The sections of a document, of which the first ones are read. -/
theorem reads_sections {sections : List Section} (readable : ∀ s ∈ sections, s.IsReadable)
    (distinct : (done.map (·.1) ++ sections.map (·.name)).Nodup) :
    Reads (.ofTables done) (List.intercalate ['\n'] (sections.map Section.write))
      (.ofTables (done ++ sections.map Section.named)) [] := by
  induction sections generalizing done with
  | nil =>
    simp only [List.map_nil, List.append_nil]
    exact .refl _ _
  | cons s sections ih =>
    obtain ⟨first, others⟩ := List.forall_mem_cons.1 readable
    have new : s.name ∉ done.map (·.1) := fun mem =>
      List.disjoint_of_nodup_append distinct mem List.mem_cons_self
    have later : Reads (.ofTables (done ++ [s.named]))
        (List.intercalate ['\n'] (sections.map Section.write))
        (.ofTables (done ++ [s.named] ++ sections.map Section.named)) [] :=
      ih others (by simpa [Section.named] using distinct)
    rw [List.append_assoc, List.singleton_append] at later
    cases sections with
    | nil =>
      have whole := reads_section first new []
      rw [List.append_nil] at whole
      rw [List.map_singleton, List.intercalate_singleton]
      exact whole.trans later
    | cons s' sections =>
      rw [List.map_cons, List.map_cons, List.intercalate_cons_cons, List.append_assoc]
      exact (reads_section first new _).trans ((reads_blank _ _).trans later)

/-! ## Documents -/

theorem unifyLines_of_notMem (h : '\r' ∉ s) : unifyLines s = s := by
  induction s with
  | nil => rfl
  | cons c s ih =>
    rw [List.mem_cons, not_or] at h
    rw [unifyLines, ih h.2]
    rintro _ rfl _
    exact h.1 rfl

/-- No carriage return is written in a text. -/
theorem notMem_writeChar (c : Char) : '\r' ∉ writeChar c := by
  have digit : ∀ n < 16, '\r' ≠ Text.hexDigit 'a' n := by decide
  rw [writeChar]
  split
  · rename_i special
    rcases special with rfl | rfl <;> decide
  split
  · decide
  split
  · decide
  split
  · decide
  split
  · decide
  · rename_i other
    split
    · rename_i control
      have high := digit (c.toNat / 16) (by omega)
      have low := digit (c.toNat % 16) (Nat.mod_lt _ (by omega))
      simp [high, low]
    · exact fun mem => other (List.mem_singleton.1 mem).symm

theorem notMem_write (v : Scalar) : '\r' ∉ v.write := by
  have digits (n : Nat) : '\r' ∉ Text.decimal n := fun mem =>
    absurd (Text.isDigit_of_mem_decimal mem) (by decide)
  cases v with
  | string s => simp [Scalar.write, writeText, notMem_writeChar]
  | boolean b => cases b <;> decide
  | integer n => cases n <;> simp [Scalar.write, Text.decimalInt, digits]

theorem IsBare.notMem {key : String} (h : IsBare key) : '\r' ∉ key.toList := fun mem =>
  absurd (h.plain _ mem) (by decide)

theorem notMem_section {s : Section} (h : s.IsReadable) : '\r' ∉ s.write := by
  have entries : '\r' ∉ s.entries.flatMap writeEntry := by
    rw [List.mem_flatMap]
    rintro ⟨entry, mem, inside⟩
    have key := (h.keys entry mem).notMem
    simp [writeEntry, key, notMem_write] at inside
  have name := h.name.notMem
  simp [Section.write, name, entries]

/-- **A document is read back from how it is written**, as the tables of its sections. -/
theorem read_writeDocument {sections : List Section} (readable : ∀ s ∈ sections, s.IsReadable)
    (distinct : (sections.map (·.name)).Nodup) :
    Document.read (writeDocument sections) = .ok (ofTables (sections.map Section.named)) := by
  have clean : '\r' ∉ List.intercalate ['\n'] (sections.map Section.write) := by
    intro mem
    rcases mem_of_mem_intercalate mem with feed | ⟨text, mem, inside⟩
    · exact absurd feed (by decide)
    · obtain ⟨s, listed, rfl⟩ := List.mem_map.1 mem
      exact notMem_section (readable s listed) inside
  have whole : Reads (.ofTables []) (List.intercalate ['\n'] (sections.map Section.write))
      (.ofTables (sections.map Section.named)) [] := reads_sections readable distinct
  obtain ⟨fuel, -, same⟩ := whole _ (Nat.lt_succ_self _)
  rw [Document.read, writeDocument, String.toList_ofList, unifyLines_of_notMem clean,
    ← Draft.ofTables_nil, same]
  cases fuel <;> rfl

end TagSearch.Toml
