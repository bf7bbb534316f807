import StudioQuote.Service.Operation

/-!
# Running sessions

A session run on a database is computed part by part. A session that only reads leaves
every database as it is. An atomic one leaves it as it is when it fails: what may be
undone has to stand in a transaction, and what stands outside of one has to come last.
-/

namespace StudioQuote

namespace Session

variable {α β : Type}

@[simp] theorem run_pure (a : α) (db : Database) : (pure a : Session α).run db = (.ok a, db) := rfl

@[simp] theorem run_throw (e : Failure) (db : Database) :
    (throw e : Session α).run db = (.error e, db) := rfl

theorem run_bind (x : Session α) (f : α → Session β) (db : Database) :
    (x >>= f).run db =
      match x.run db with
      | (.ok a, after) => (f a).run after
      | (.error e, after) => (.error e, after) := by
  change ((ExceptT.bind x f).run db : Except Failure β × Database) = _
  simp only [ExceptT.bind, ExceptT.run_mk, bind, StateT.bind]
  change (match x.run db with | (a, s) => (ExceptT.bindCont f a).run s) = _
  rcases x.run db with ⟨_ | a, after⟩
  · rfl
  · rfl

theorem run_bind_ok {x : Session α} {f : α → Session β} {db after : Database} {a : α}
    (h : x.run db = (.ok a, after)) : (x >>= f).run db = (f a).run after := by
  rw [run_bind, h]

theorem run_bind_error {x : Session α} {f : α → Session β} {db after : Database} {e : Failure}
    (h : x.run db = (.error e, after)) : (x >>= f).run db = (.error e, after) := by
  rw [run_bind, h]

@[simp] theorem run_map (f : α → β) (x : Session α) (db : Database) :
    (f <$> x).run db = ((x.run db).1.map f, (x.run db).2) := by
  rw [map_eq_pure_bind, run_bind]
  rcases x.run db with ⟨_ | a, after⟩
  · rfl
  · rfl

theorem run_tables_ready (task : StorageTask) (first : Table) (s : Store) :
    (tables task first).run (.ready s) = (.ok s, .ready s) := rfl

theorem run_bindCells (cs : List Cell) (db : Database) :
    (bindCells cs).run db =
      (match cs.findSome? bindFailure? with
        | none => .ok ()
        | some e => .error e, db) := by
  rw [bindCells]
  cases cs.findSome? bindFailure? with
  | none => rfl
  | some e => rfl

theorem findSome?_bindFailure?_integers (ns : List Int) :
    (ns.map Cell.integer).findSome? bindFailure? =
      if ns.all fitsInt64 then none else some .integerTooWide := by
  induction ns with
  | nil => rfl
  | cons n ns ih =>
    rw [List.map_cons, List.findSome?_cons, bindFailure?, ih, List.all_cons]
    cases fitsInt64 n with
    | true => rfl
    | false => rfl

theorem run_bindIntegers (ns : List Int) (db : Database) :
    (bindIntegers ns).run db =
      (if ns.all fitsInt64 then .ok () else .error .integerTooWide, db) := by
  rw [bindIntegers, run_bindCells, findSome?_bindFailure?_integers]
  cases ns.all fitsInt64 with
  | true => rfl
  | false => rfl

end Session

/-! ## Cells that can be stored -/

/-- Whether a cell can be a parameter of a statement. -/
def Cell.IsBindable (c : Cell) : Prop :=
  Session.bindFailure? c = none

instance (c : Cell) : Decidable c.IsBindable :=
  inferInstanceAs (Decidable (Session.bindFailure? c = none))

/-- Whether a failure says that a value cannot be stored. -/
def Failure.IsUnstorable : Failure → Prop
  | .integerTooWide | .integerTooLong | .textUnencodable _ => True
  | _ => False

namespace Session

variable {α β : Type}

/-! ## Statements on a store -/

theorem run_query_ready (first : Table) (ns : List Int) (f : Store → α) (s : Store) :
    (query first ns f).run (.ready s) =
      (if ns.all fitsInt64 then .ok (f s) else .error .integerTooWide, .ready s) := by
  rw [query, run_bind_ok (run_tables_ready ..), run_bind, run_bindIntegers]
  by_cases h : ns.all fitsInt64
  · simp [h]
  · simp [h]

theorem run_write_ready (task : StorageTask) (first : Table) (ns : List Int) (f : Store → Store)
    (s : Store) :
    (write task first ns f).run (.ready s) =
      if ns.all fitsInt64 then (.ok (), .ready (f s)) else (.error .integerTooWide, .ready s) := by
  rw [write, run_bind_ok (run_tables_ready ..), run_bind, run_bindIntegers]
  by_cases h : ns.all fitsInt64
  · simp only [h, if_true]
    rfl
  · simp [h]

theorem run_attempt_of_bindable {cs : List Cell} (h : ∀ c ∈ cs, c.IsBindable)
    (task : StorageTask) (first : Table) (f : Store → Except StorageFault (α × Store)) (s : Store) :
    (attempt task first cs f).run (.ready s) =
      match f s with
      | .ok (a, after) => (.ok a, .ready after)
      | .error fault => (.error (.storage task fault), .ready s) := by
  have hbind : cs.findSome? bindFailure? = none := List.findSome?_eq_none_iff.mpr h
  rw [attempt, run_bind_ok (run_tables_ready ..), run_bind, run_bindCells, hbind]
  rcases f s with fault | ⟨a, after⟩
  · rfl
  · rfl

theorem run_attempt_of_bindFailure {cs : List Cell} {e : Failure}
    (h : cs.findSome? bindFailure? = some e) (task : StorageTask) (first : Table)
    (f : Store → Except StorageFault (α × Store)) (s : Store) :
    (attempt task first cs f).run (.ready s) = (.error e, .ready s) := by
  rw [attempt, run_bind_ok (run_tables_ready ..), run_bind, run_bindCells, h]

theorem run_attempt_of_not_bindable {cs : List Cell} (h : ¬ ∀ c ∈ cs, c.IsBindable)
    (task : StorageTask) (first : Table) (f : Store → Except StorageFault (α × Store)) (s : Store) :
    ∃ c ∈ cs, ∃ e, bindFailure? c = some e ∧
      (attempt task first cs f).run (.ready s) = (.error e, .ready s) := by
  have hbind : cs.findSome? bindFailure? ≠ none := fun hnone =>
    h (List.findSome?_eq_none_iff.mp hnone)
  obtain ⟨e, he⟩ := Option.ne_none_iff_exists'.mp hbind
  obtain ⟨c, hc, hfail⟩ := List.exists_of_findSome?_eq_some he
  exact ⟨c, hc, e, hfail, run_attempt_of_bindFailure he task first f s⟩

theorem isUnstorable_of_bindFailure? {c : Cell} {e : Failure} (h : bindFailure? c = some e) :
    e.IsUnstorable := by
  cases c with
  | integer n =>
    obtain ⟨-, ⟨⟩⟩ := Option.ite_none_left_eq_some.mp h
    trivial
  | text s =>
    obtain ⟨-, ⟨⟩⟩ := Option.ite_none_left_eq_some.mp h
    trivial
  | _ => cases h

/-! ## Sessions that succeed -/

theorem bind_eq_ok {x : Session α} {f : α → Session β} {db after : Database} {b : β}
    (h : (x >>= f).run db = (.ok b, after)) :
    ∃ a middle, x.run db = (.ok a, middle) ∧ (f a).run middle = (.ok b, after) := by
  rw [run_bind] at h
  rcases hx : x.run db with ⟨e | a, middle⟩
  · rw [hx] at h
    cases h
  · rw [hx] at h
    exact ⟨a, middle, rfl, h⟩

theorem map_eq_ok {x : Session α} {f : α → β} {db after : Database} {b : β}
    (h : (f <$> x).run db = (.ok b, after)) : ∃ a, x.run db = (.ok a, after) ∧ f a = b := by
  rw [run_map] at h
  rcases hx : x.run db with ⟨e | a, middle⟩
  · rw [hx] at h
    cases h
  · rw [hx] at h
    cases h
    exact ⟨a, rfl, rfl⟩

theorem query_eq_ok {first : Table} {ns : List Int} {f : Store → α} {s : Store} {a : α}
    {after : Database} (h : (query first ns f).run (.ready s) = (.ok a, after)) :
    ns.all fitsInt64 = true ∧ a = f s ∧ after = .ready s := by
  rw [run_query_ready] at h
  split at h
  · rename_i hfits
    cases h
    exact ⟨hfits, rfl, rfl⟩
  · cases h

/-- What is read row by row is read from some row. -/
theorem exists_of_mem_mapM {read : β → Session α} {rows : List β} {as : List α}
    {db after : Database} (h : (rows.mapM read).run db = (.ok as, after)) :
    ∀ a ∈ as, ∃ r ∈ rows, ∃ before later, (read r).run before = (.ok a, later) := by
  induction rows generalizing db as with
  | nil =>
    cases h
    exact List.forall_mem_nil _
  | cons r rows ih =>
    rw [List.mapM_cons] at h
    obtain ⟨a, middle, hread, hrest⟩ := bind_eq_ok h
    obtain ⟨rest, _, hrows, hcons⟩ := bind_eq_ok hrest
    cases hcons
    refine List.forall_mem_cons.mpr ⟨⟨r, List.mem_cons_self, db, middle, hread⟩, ?_⟩
    intro b hb
    obtain ⟨row, hrow, hfound⟩ := ih hrows b hb
    exact ⟨row, List.mem_cons_of_mem r hrow, hfound⟩

theorem write_eq_ok {task : StorageTask} {first : Table} {ns : List Int} {f : Store → Store}
    {s : Store} {u : Unit} {after : Database}
    (h : (write task first ns f).run (.ready s) = (.ok u, after)) :
    ns.all fitsInt64 = true ∧ after = .ready (f s) := by
  rw [run_write_ready] at h
  split at h
  · rename_i hfits
    cases h
    exact ⟨hfits, rfl⟩
  · cases h

theorem attempt_eq_ok {task : StorageTask} {first : Table} {cs : List Cell}
    {f : Store → Except StorageFault (α × Store)} {s : Store} {a : α} {after : Database}
    (h : (attempt task first cs f).run (.ready s) = (.ok a, after)) :
    (∀ c ∈ cs, c.IsBindable) ∧ ∃ changed, f s = .ok (a, changed) ∧ after = .ready changed := by
  by_cases hbind : ∀ c ∈ cs, c.IsBindable
  · rw [run_attempt_of_bindable hbind] at h
    cases hf : f s with
    | error fault =>
      rw [hf] at h
      cases h
    | ok r =>
      rw [hf] at h
      cases h
      exact ⟨hbind, r.2, rfl, rfl⟩
  · obtain ⟨c, -, e, -, hrun⟩ := run_attempt_of_not_bindable hbind task first f s
    rw [hrun] at h
    cases h

theorem edit_eq_ok {r : Except EditError α} {db after : Database} {a : α}
    (h : (edit r).run db = (.ok a, after)) : r = .ok a ∧ after = db := by
  cases r with
  | ok value =>
    cases h
    exact ⟨rfl, rfl⟩
  | error e => cases h

/-! ## What a session leaves behind -/

def ReadOnly (x : Session α) : Prop :=
  ∀ db, (x.run db).2 = db

/-- A session that leaves no trace when it fails. -/
def Atomic (x : Session α) : Prop :=
  ∀ db e, (x.run db).1 = .error e → (x.run db).2 = db

theorem ReadOnly.atomic {x : Session α} (h : x.ReadOnly) : x.Atomic :=
  fun db _ _ => h db

theorem readOnly_pure (a : α) : (pure a : Session α).ReadOnly :=
  fun _ => rfl

theorem readOnly_throw (e : Failure) : (throw e : Session α).ReadOnly :=
  fun _ => rfl

theorem ReadOnly.bind {x : Session α} {f : α → Session β} (hx : x.ReadOnly)
    (hf : ∀ a, (f a).ReadOnly) : (x >>= f).ReadOnly := by
  intro db
  have h := hx db
  rw [run_bind]
  rcases hrun : x.run db with ⟨_ | a, after⟩
  · rwa [hrun] at h
  · rw [hrun] at h
    exact (hf a after).trans h

theorem ReadOnly.bind_eq_ok {x : Session α} (hx : x.ReadOnly) {f : α → Session β}
    {db after : Database} {b : β} (h : (x >>= f).run db = (.ok b, after)) :
    ∃ a, x.run db = (.ok a, db) ∧ (f a).run db = (.ok b, after) := by
  obtain ⟨a, middle, hrun, hrest⟩ := Session.bind_eq_ok h
  obtain rfl : middle = db := by
    have hsame := hx db
    rw [hrun] at hsame
    exact hsame
  exact ⟨a, hrun, hrest⟩

/-- An atomic session may follow one that only reads: nothing has to be undone then. -/
theorem ReadOnly.bind_atomic {x : Session α} {f : α → Session β} (hx : x.ReadOnly)
    (hf : ∀ a, (f a).Atomic) : (x >>= f).Atomic := by
  intro db e he
  have h := hx db
  rw [run_bind] at he ⊢
  rcases hrun : x.run db with ⟨_ | a, after⟩
  · rwa [hrun] at h
  · rw [hrun] at h he
    cases h
    exact hf a _ e he

theorem Atomic.bind_pure {x : Session α} (hx : x.Atomic) (f : α → β) :
    (x >>= fun a => pure (f a)).Atomic := by
  intro db e he
  have h := hx db e
  rw [run_bind] at he ⊢
  rcases hrun : x.run db with ⟨e' | a, after⟩
  · rw [hrun] at h he
    cases he
    exact h rfl
  · rw [hrun] at he
    cases he

theorem ReadOnly.map {x : Session α} (hx : x.ReadOnly) (f : α → β) : (f <$> x).ReadOnly := by
  intro db
  rw [run_map]
  exact hx db

theorem Atomic.map {x : Session α} (hx : x.Atomic) (f : α → β) : (f <$> x).Atomic := by
  rw [map_eq_pure_bind]
  exact hx.bind_pure f

theorem ReadOnly.mapM {f : α → Session β} (hf : ∀ a, (f a).ReadOnly) (as : List α) :
    (as.mapM f).ReadOnly := by
  induction as with
  | nil => exact readOnly_pure []
  | cons a as ih =>
    rw [List.mapM_cons]
    exact (hf a).bind fun b => ih.bind fun bs => readOnly_pure (b :: bs)

theorem readOnly_tables (task : StorageTask) (first : Table) : (tables task first).ReadOnly := by
  intro db
  cases db with
  | unopenable => rfl
  | blank => rfl
  | ready s => rfl

theorem readOnly_bindCells (cs : List Cell) : (bindCells cs).ReadOnly := by
  intro db
  rw [run_bindCells]

theorem readOnly_bindIntegers (ns : List Int) : (bindIntegers ns).ReadOnly :=
  readOnly_bindCells _

theorem readOnly_query (first : Table) (ns : List Int) (f : Store → α) :
    (query first ns f).ReadOnly :=
  (readOnly_tables .statement first).bind fun s =>
    (readOnly_bindIntegers ns).bind fun _ => readOnly_pure (f s)

theorem readOnly_reading (r : Reading α) : (reading r).ReadOnly := by
  cases r with
  | ok a => exact readOnly_pure a
  | failed ps => exact readOnly_throw _

theorem readOnly_edit (r : Except EditError α) : (edit r).ReadOnly := by
  cases r with
  | ok a => exact readOnly_pure a
  | error e => exact readOnly_throw _

theorem readOnly_writable (r : Option α) : (writable r).ReadOnly := by
  cases r with
  | some a => exact readOnly_pure a
  | none => exact readOnly_throw _

theorem atomic_set (db : Database) : (set db : Session Unit).Atomic := by
  intro _ _ he
  cases he

theorem atomic_write (task : StorageTask) (first : Table) (ns : List Int) (f : Store → Store) :
    (write task first ns f).Atomic :=
  (readOnly_tables task first).bind_atomic fun s =>
    (readOnly_bindIntegers ns).bind_atomic fun _ => atomic_set (.ready (f s))

theorem atomic_attempt (task : StorageTask) (first : Table) (cs : List Cell)
    (f : Store → Except StorageFault (α × Store)) : (attempt task first cs f).Atomic := by
  refine (readOnly_tables task first).bind_atomic fun s =>
    (readOnly_bindCells cs).bind_atomic fun _ => ?_
  rcases f s with fault | ⟨a, after⟩
  · exact (readOnly_throw _).atomic
  · exact (atomic_set (.ready after)).bind_pure fun _ => a

theorem run_transaction (x : Session α) (db : Database) :
    (transaction x).run db =
      match x.run db with
      | (.ok a, after) => (.ok a, after)
      | (.error e, _) => (.error e, db) :=
  rfl

theorem atomic_transaction (x : Session α) : (transaction x).Atomic := by
  intro db e he
  rw [run_transaction] at he ⊢
  rcases hrun : x.run db with ⟨_ | a, after⟩
  · rfl
  · rw [hrun] at he
    cases he

theorem run_relabelled (relabel : Failure → Failure) (x : Session α) (db : Database) :
    (relabelled relabel x).run db =
      match x.run db with
      | (.ok a, after) => (.ok a, after)
      | (.error e, after) => (.error (relabel e), after) := by
  rw [relabelled]
  rcases hrun : x.run db with ⟨e | a, after⟩
  · change x db = _ at hrun
    simp only [tryCatch, tryCatchThe, MonadExceptOf.tryCatch, ExceptT.tryCatch, ExceptT.run_mk,
      bind, StateT.bind, hrun]
    rfl
  · change x db = _ at hrun
    simp only [tryCatch, tryCatchThe, MonadExceptOf.tryCatch, ExceptT.tryCatch, ExceptT.run_mk,
      bind, StateT.bind, hrun]
    rfl

theorem transaction_eq_ok {x : Session α} {db after : Database} {a : α}
    (h : (transaction x).run db = (.ok a, after)) : x.run db = (.ok a, after) := by
  rw [run_transaction] at h
  rcases hx : x.run db with ⟨e | b, middle⟩
  · rw [hx] at h
    cases h
  · rw [hx] at h
    exact h

theorem Atomic.relabelled {x : Session α} (hx : x.Atomic) (relabel : Failure → Failure) :
    (Session.relabelled relabel x).Atomic := by
  intro db e he
  rw [run_relabelled] at he ⊢
  rcases hrun : x.run db with ⟨e' | a, after⟩
  · have h := hx db e'
    rw [hrun] at h
    exact h rfl
  · rw [hrun] at he
    cases he

end Session

/-! ## Runs -/

namespace Operation

theorem runAll_cons (op : Operation) (ops : List Operation) (db : Database) :
    runAll (op :: ops) db =
      ((op.run db).1 :: (runAll ops (op.run db).2).1, (runAll ops (op.run db).2).2) :=
  rfl

theorem runAll_append (before after : List Operation) (db : Database) :
    runAll (before ++ after) db =
      ((runAll before db).1 ++ (runAll after (runAll before db).2).1,
        (runAll after (runAll before db).2).2) := by
  induction before generalizing db with
  | nil => rfl
  | cons op ops ih =>
    rw [List.cons_append, runAll_cons, runAll_cons, ih]
    rfl

theorem runAll_concat (ops : List Operation) (op : Operation) (db : Database) :
    (runAll (ops ++ [op]) db).2 = (op.run (runAll ops db).2).2 := by
  rw [runAll_append]
  rfl

theorem length_runAll (ops : List Operation) (db : Database) :
    (runAll ops db).1.length = ops.length := by
  induction ops generalizing db with
  | nil => rfl
  | cons op ops ih => rw [runAll_cons, List.length_cons, List.length_cons, ih]

end Operation

end StudioQuote
