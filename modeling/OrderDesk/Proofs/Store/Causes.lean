import OrderDesk.Proofs.Store.Calls

/-!
# What failures are made of

Every step of the service fails for causes of a few kinds only. A class of causes that holds those
of each part of an action holds those of the whole, so that "it never fails for this" is proved
without looking at any run.

* `Failure.Only C`        every cause is of the class `C`;
* `Raises C I x`          from a state of which `I` holds, `x` ends in such a state, and fails for
                          causes of the class `C` only;
* `Cause.StoreClass C`    a class with all that the store fails for by itself;
* `send_raises`           the engine;
* `Orders.save_raises`    storing an order whose total is the sum of its lines;
* `Failure.Matched`       no cause is a total that does not match.
-/

namespace OrderDesk

/-- Anything but a total that does not match. -/
def Cause.Matched (c : Cause) : Prop := ∀ id total items, c ≠ .mismatch id total items

def Failure.Matched (f : Failure) : Prop := ∀ c ∈ f.causes, c.Matched

/-- Every cause is of a class. -/
def Failure.Only (C : Cause → Prop) (f : Failure) : Prop := ∀ c ∈ f.causes, C c

namespace Failure

variable {C : Cause → Prop} {c : Cause} {f g : Failure}

theorem only_cause (h : C c) : (Failure.cause c).Only C := by
  intro c' hc'
  rw [List.mem_singleton.mp hc']
  exact h

theorem only_within {context : String} (h : f.Only C) : (Failure.within context f).Only C := h

theorem only_both (hf : f.Only C) (hg : g.Only C) : (Failure.both f g).Only C := by
  intro c hc
  rcases List.mem_append.mp hc with hc | hc
  · exact hf c hc
  · exact hg c hc

end Failure

/-- A class with all that the store fails for by itself: the words of its engine, and rows that are
not there. -/
structure Cause.StoreClass (C : Cause → Prop) : Prop where
  plain : ∀ text, C (.plain text)
  noRows : C .noRows
  missing : ∀ entity id, C (.notFound entity id)

theorem Cause.StoreClass.only_plain {C : Cause → Prop} (h : Cause.StoreClass C) (text : String) :
    (Failure.plain text).Only C := Failure.only_cause (h.plain text)

/-- the store never fails by itself for a total that does not match -/
theorem Cause.storeClass_matched : Cause.StoreClass Cause.Matched :=
  ⟨fun _ _ _ _ => nofun, fun _ _ _ => nofun, fun _ _ _ _ _ => nofun⟩

/-! ## actions -/

namespace Action

variable {σ α β : Type} {C : Cause → Prop} {I : σ → Prop}

/-- An end in a state of which `I` holds, and in no failure with a cause beyond the class `C`. -/
def Ends (C : Cause → Prop) (I : σ → Prop) (r : Outcome α × σ) : Prop :=
  I r.2 ∧ ∀ f, r.1 = .failed f → f.Only C

namespace Ends

variable {s : σ}

theorem ok (h : I s) (a : α) : Ends C I (Outcome.ok a, s) := by
  refine ⟨h, fun f hf => ?_⟩
  cases hf

theorem failed {f : Failure} (h : I s) (hf : f.Only C) :
    Ends C I (Outcome.failed (α := α) f, s) := by
  refine ⟨h, fun g hg => ?_⟩
  rw [← Outcome.failed.inj hg]
  exact hf

theorem panicked (h : I s) (t : String) : Ends C I (Outcome.panicked (α := α) t, s) := by
  refine ⟨h, fun f hf => ?_⟩
  cases hf

end Ends

/-- From a state of which `I` holds, an action ends in such a state, and fails for causes of the
class `C` only. -/
def Raises (C : Cause → Prop) (I : σ → Prop) (x : Action σ α) : Prop := ∀ s, I s → Ends C I (x s)

namespace Raises

variable {x : Action σ α}

theorem of_failed {s s' : σ} {f : Failure} (hx : Raises C I x) (hs : I s)
    (h : x s = (.failed f, s')) : f.Only C := by
  have hf := (hx s hs).2 f
  rw [h] at hf
  exact hf rfl

theorem of_ok {s s' : σ} {a : α} (hx : Raises C I x) (hs : I s) (h : x s = (.ok a, s')) : I s' := by
  have hI := (hx s hs).1
  rw [h] at hI
  exact hI

/-- one action after another, when something is known of the value of the first -/
theorem bind_of {Q : α → Prop} {k : α → Action σ β} (hx : Raises C I x)
    (hq : ∀ s a s', I s → x s = (.ok a, s') → Q a) (hk : ∀ a, Q a → Raises C I (k a)) :
    Raises C I (x >>= k) := by
  intro s hs
  have h₁ := hx s hs
  rcases h : x s with ⟨o, s₁⟩
  rw [h] at h₁
  cases o with
  | ok a =>
    rw [bind_of_ok h]
    exact hk a (hq s a s₁ hs h) s₁ h₁.1
  | failed f =>
    rw [bind_of_failed h]
    exact .failed h₁.1 (h₁.2 f rfl)
  | panicked t =>
    rw [bind_of_panicked h]
    exact .panicked h₁.1 t

theorem bind {k : α → Action σ β} (hx : Raises C I x) (hk : ∀ a, Raises C I (k a)) :
    Raises C I (x >>= k) :=
  hx.bind_of (Q := fun _ => True) (fun _ _ _ _ _ => trivial) fun a _ => hk a

theorem pure (a : α) : Raises C I (pure a : Action σ α) := fun _ hs => .ok hs a

theorem fail {f : Failure} (h : f.Only C) : Raises C I (Action.fail f : Action σ α) :=
  fun _ hs => .failed hs h

theorem raise {c : Cause} (h : C c) : Raises C I (Action.raise c : Action σ α) :=
  fail (Failure.only_cause h)

theorem state : Raises C I Action.state := fun s hs => .ok hs s

theorem reads (g : σ → α) : Raises C I (Action.reads g) := fun s hs => .ok hs (g s)

theorem ofExcept {r : Except Failure α} (h : ∀ f, r = .error f → f.Only C) :
    Raises C I (Action.ofExcept r : Action σ α) := by
  cases r with
  | ok a => exact pure a
  | error f => exact fail (h f rfl)

theorem context {c : String} (hx : Raises C I x) : Raises C I (x.context c) := by
  intro s hs
  have h₁ := hx s hs
  unfold Action.context
  rcases h : x s with ⟨o, s₁⟩
  rw [h] at h₁
  cases o with
  | ok a => exact h₁
  | failed f => exact .failed h₁.1 (Failure.only_within (h₁.2 f rfl))
  | panicked t => exact h₁

theorem attempt (hx : Raises C I x) : Raises C I x.attempt := by
  intro s hs
  have h₁ := hx s hs
  unfold Action.attempt
  rcases h : x s with ⟨o, s₁⟩
  rw [h] at h₁
  cases o with
  | ok a => exact .ok h₁.1 _
  | failed f => exact .ok h₁.1 _
  | panicked t => exact .panicked h₁.1 t

theorem orElse {k : Failure → Action σ α} (hx : Raises C I x)
    (hk : ∀ f, f.Only C → Raises C I (k f)) : Raises C I (x.orElse k) := by
  intro s hs
  have h₁ := hx s hs
  unfold Action.orElse
  rcases h : x s with ⟨o, s₁⟩
  rw [h] at h₁
  cases o with
  | ok a => exact h₁
  | failed f => exact hk f (h₁.2 f rfl) s₁ h₁.1
  | panicked t => exact h₁

end Raises

end Action

namespace Store

open OrderDesk.Action (Raises)

variable {C : Cause → Prop}

/-! ## the engine -/

section
variable {q : Statement} {f : Failure}

theorem inserted_plain {ρ : Type} [HasId ρ] {t : Table ρ} {refusal : Option Failure}
    {make : Int → ρ} (hrefusal : ∀ g, refusal = some g → ∃ text, g = .plain text)
    (h : Tables.inserted t refusal make = .error f) : ∃ text, f = .plain text := by
  rcases inserted_error h with rfl | hf
  · exact ⟨_, rfl⟩
  · exact hrefusal f hf

theorem onProducts_error {t : Table ProductRow} (h : Tables.onProducts t q = .error f) :
    ∃ text, f = .plain text := by
  cases q with
  | insertProduct name price stock =>
    refine inserted_plain (fun g hg => ?_) h
    split at hg
    · exact ⟨_, (Option.some.inj hg).symm⟩
    · cases hg
  | updateProduct =>
    simp only [Tables.onProducts] at h
    repeat' split at h
    all_goals cases h <;> exact ⟨_, rfl⟩
  | countProducts p | listProducts p =>
    simp only [Tables.onProducts, matching] at h
    repeat' split at h
    all_goals cases h <;> exact ⟨_, rfl⟩
  | _ => cases h

theorem onOrders_error {t : Table OrderRow} (h : Tables.onOrders t q = .error f) :
    ∃ text, f = .plain text := by
  cases q with
  | insertOrder =>
    refine inserted_plain (fun g hg => ?_) h
    split at hg
    · exact ⟨_, (Option.some.inj hg).symm⟩
    · cases hg
  | updateOrder =>
    simp only [Tables.onOrders] at h
    repeat' split at h
    all_goals cases h <;> exact ⟨_, rfl⟩
  | _ => cases h

theorem onItems_error {t : Table ItemRow} (h : Tables.onItems t q = .error f) :
    ∃ text, f = .plain text := by
  cases q with
  | insertItem =>
    have hinsert : Tables.inserted t none _ = .error f := h
    refine inserted_plain (fun g hg => ?_) hinsert
    cases hg
  | selectItems =>
    simp only [Tables.onItems] at h
    split at h
    all_goals cases h <;> exact ⟨_, rfl⟩
  | _ => cases h

theorem onCategories_error {t : Table CategoryRow} (h : Tables.onCategories t q = .error f) :
    ∃ text, f = .plain text := by
  cases q with
  | insertCategory =>
    refine inserted_plain (fun g hg => ?_) h
    split at hg
    · exact ⟨_, (Option.some.inj hg).symm⟩
    · cases hg
  | updateCategory =>
    simp only [Tables.onCategories] at h
    repeat' split at h
    all_goals cases h <;> exact ⟨_, rfl⟩
  | _ => cases h

theorem through_error {ρ : Type} {name : String} {slot : Option (Table ρ)} {put : Table ρ → Tables}
    {g : Table ρ → Except Failure (Reply × Table ρ)}
    (hg : ∀ t, g t = .error f → ∃ text, f = .plain text)
    (h : through name slot put g = .error f) : ∃ text, f = .plain text := by
  rcases through_error_iff.mp h with ⟨-, rfl⟩ | ⟨t, -, ht⟩
  · exact ⟨_, rfl⟩
  · exact hg t ht

/-- the engine fails in words of its own -/
theorem answer_error {ts : Tables} (h : ts.answer q = .error f) : ∃ text, f = .plain text := by
  cases hsub : q.subject with
  | products => exact through_error (fun _ => onProducts_error) (answer_products hsub ▸ h)
  | orders => exact through_error (fun _ => onOrders_error) (answer_orders hsub ▸ h)
  | items => exact through_error (fun _ => onItems_error) (answer_items hsub ▸ h)
  | categories => exact through_error (fun _ => onCategories_error) (answer_categories hsub ▸ h)
  | schema =>
    cases q with
    | createVersions | schema => cases h
    | readVersion | recordVersion =>
      simp only [Tables.answer] at h
      split at h
      all_goals cases h <;> exact ⟨_, rfl⟩
    | _ => cases hsub

theorem send_error {b b' : Backend} (h : send q b = (.failed f, b')) : ∃ text, f = .plain text := by
  cases b with
  | embedded db =>
    obtain ⟨-, rfl, -⟩ | ⟨-, ha, -⟩ := send_failed_iff.mp h
    · exact ⟨_, rfl⟩
    · exact answer_error ha
  | remote e =>
    unfold send Remote.answer at h
    dsimp only at h
    split at h
    case h_1 => cases h
    case h_2 heq =>
      split at heq
      case h_1 => cases heq
      case h_2 answer rest hanswers =>
        cases answer with
        | ok reply => cases heq
        | error text =>
          cases heq
          cases h
          exact ⟨text, rfl⟩

theorem signal_error {e : Remote} {x : Signal} (h : (e.signal x).1 = .error f) :
    ∃ text, f = .plain text := by
  unfold Remote.signal at h
  dsimp only at h
  split at h
  · cases h
    exact ⟨_, rfl⟩
  · cases h

end

/-! ## transactions -/

/-- no store is left out -/
def Anyhow (_ : Backend) : Prop := True

section
variable (hC : Cause.StoreClass C)
include hC

theorem begin_raises : Raises C Anyhow begin := by
  intro b _
  refine ⟨trivial, fun f h => ?_⟩
  cases b with
  | embedded db =>
    unfold begin Database.begin at h
    dsimp only at h
    cases hclosed : db.closed with
    | true =>
      rw [hclosed] at h
      obtain rfl := Outcome.failed.inj h
      exact hC.only_plain _
    | false =>
      rw [hclosed] at h
      cases h
  | remote e =>
    unfold begin at h
    dsimp only at h
    rcases hsignal : e.signal .begin with ⟨r, e'⟩
    rw [hsignal] at h
    cases r with
    | ok u => cases h
    | error g =>
      obtain rfl := Outcome.failed.inj h
      obtain ⟨text, rfl⟩ := signal_error (congrArg Prod.fst hsignal)
      exact hC.only_plain text

/-- both ways to end a transaction -/
theorem closing_raises {x : Action Backend Unit} {signal : Signal}
    {shut : Database → Except Failure Unit × Database}
    (hshut : ∀ db g, (shut db).1 = .error g → ∃ text, g = .plain text)
    (hdb : ∀ db, x (.embedded db) = Action.ofExcept (shut db).1 (.embedded (shut db).2))
    (he : ∀ e, x (.remote e) = Action.ofExcept (e.signal signal).1
      (.remote { (e.signal signal).2 with busy := false })) : Raises C Anyhow x := by
  intro b _
  refine ⟨trivial, fun f h => ?_⟩
  cases b with
  | embedded db =>
    rw [hdb] at h
    cases hend : (shut db).1 with
    | ok u =>
      rw [hend] at h
      cases h
    | error g =>
      rw [hend] at h
      cases h
      obtain ⟨text, rfl⟩ := hshut db f hend
      exact hC.only_plain text
  | remote e =>
    rw [he] at h
    cases hsignal : (e.signal signal).1 with
    | ok u =>
      rw [hsignal] at h
      cases h
    | error g =>
      rw [hsignal] at h
      cases h
      obtain ⟨text, rfl⟩ := signal_error hsignal
      exact hC.only_plain text

omit hC in
theorem commit_error {db : Database} {g : Failure} (h : db.commit.1 = .error g) :
    ∃ text, g = .plain text := by
  unfold Database.commit at h
  split at h
  · exact ⟨_, (Except.error.inj h).symm⟩
  · cases h

omit hC in
theorem rollback_error {db : Database} {g : Failure} (h : db.rollback.1 = .error g) :
    ∃ text, g = .plain text := by
  unfold Database.rollback at h
  split at h
  · cases h
  · exact ⟨_, (Except.error.inj h).symm⟩
  · cases h

theorem commit_raises : Raises C Anyhow commit :=
  closing_raises hC (fun _ _ => commit_error) (fun _ => rfl) fun _ => rfl

theorem rollback_raises : Raises C Anyhow rollback :=
  closing_raises hC (fun _ _ => rollback_error) (fun _ => rfl) fun _ => rfl

variable {σ α : Type} [Part σ Backend] {I : σ → Prop}

omit hC in
theorem onStore_raises {x : Action Backend α} (hset : ∀ s (b : Backend), I s → I (Part.set b s))
    (hx : Raises C Anyhow x) : Raises C I (onStore x : Action σ α) := by
  intro s hs
  exact ⟨hset s _ hs, (hx (storeOf s) trivial).2⟩

variable (hset : ∀ s (b : Backend), I s → I (Part.set b s))
include hset

/-- the end of a transaction adds what the store fails for, and nothing else -/
theorem conclude_raises {o : Outcome α} (ho : ∀ f, o = .failed f → f.Only C) :
    Raises C I (conclude o) := by
  have hundo : Raises C I (onStore rollback : Action σ Unit) :=
    onStore_raises hset (rollback_raises hC)
  cases o with
  | ok a => exact (onStore_raises hset (commit_raises hC)).context.bind fun _ => .pure _
  | panicked t => exact hundo.attempt.bind fun _ => fun s hs => .panicked hs t
  | failed f =>
    intro s hs
    have hend := hundo s hs
    unfold conclude
    dsimp only
    rcases hrun : (onStore rollback : Action σ Unit) s with ⟨r, s₁⟩
    rw [hrun] at hend
    cases r with
    | ok u =>
      rw [Action.attempt_bind_of_ok hrun]
      exact .failed hend.1 (ho f rfl)
    | failed g =>
      rw [Action.attempt_bind_of_failed hrun]
      exact .failed hend.1 (Failure.only_both (ho f rfl) (Failure.only_within (hend.2 g rfl)))
    | panicked t =>
      have hattempt : (onStore rollback : Action σ Unit).attempt s = (.panicked t, s₁) := by
        unfold Action.attempt
        rw [hrun]
      rw [Action.bind_of_panicked hattempt]
      exact .panicked hend.1 t

/-- opening and ending a transaction add what the store fails for, and nothing else -/
theorem within_raises {body : Action σ α} (hb : Raises C I body) : Raises C I (within body) := by
  intro s hs
  unfold within
  split
  · exact hb s hs
  · have hopen := (onStore_raises hset (begin_raises hC)).context (c := "begin tx") s hs
    rcases h : Action.context "begin tx" (onStore begin) s with ⟨o₁, s₁⟩
    rw [h] at hopen
    cases o₁ with
    | failed f => exact .failed hopen.1 (hopen.2 f rfl)
    | panicked t => exact .panicked hopen.1 t
    | ok u =>
      have hbody := hb s₁ hopen.1
      exact conclude_raises hC hset hbody.2 _ hbody.1

end

/-! ## calls -/

section
variable {α : Type} (hC : Cause.StoreClass C)
include hC

theorem send_raises (q : Statement) : Raises C Anyhow (send q) := by
  intro b _
  refine ⟨trivial, fun f h => ?_⟩
  obtain ⟨text, rfl⟩ := send_error (Action.apply_of_outcome h)
  exact hC.only_plain text

theorem scanRow_error {width : Nat} {read : Row → Option α} {row : Row} {f : Failure}
    (h : scanRow width read row = .error f) : f.Only C := by
  unfold scanRow at h
  repeat' split at h
  all_goals cases h <;> exact hC.only_plain _

theorem firstRow_raises {width : Nat} (read : Row → Option α) (q : Statement) :
    Raises C Anyhow (firstRow (scanRow width read) q) := by
  refine (send_raises hC q).bind fun r => ?_
  split
  · exact .ofExcept fun _ => scanRow_error hC
  · exact .fail (hC.only_plain _)
  · exact .raise hC.noRows

theorem readOne_raises (c : String) {missing : Cause} (hm : C missing) {width : Nat}
    (read : Row → Option α) (q : Statement) :
    Raises C Anyhow (readOne c missing (scanRow width read) q) := by
  refine (firstRow_raises hC read q).orElse fun f hf => ?_
  split
  · exact .raise hm
  · exact .fail (Failure.only_within hf)

theorem allRows_raises (c : String) {width : Nat} (read : Row → Option α) (q : Statement) :
    Raises C Anyhow (allRows c (scanRow width read) q) := by
  refine (send_raises hC q).context.bind fun r => .ofExcept fun f h => ?_
  have hrows : ∀ (rows : List Row) g, rows.mapM (scanRow width read) = .error g → g.Only C := by
    intro rows
    induction rows with
    | nil =>
      intro g hg
      cases hg
    | cons row rows ih =>
      intro g hg
      rw [List.mapM_cons] at hg
      cases hrow : scanRow width read row with
      | error e =>
        rw [hrow] at hg
        rw [← Except.error.inj hg]
        exact scanRow_error hC hrow
      | ok a =>
        cases hrest : rows.mapM (scanRow width read) with
        | error e =>
          rw [hrow, hrest] at hg
          rw [← Except.error.inj hg]
          exact ih e hrest
        | ok as =>
          rw [hrow, hrest] at hg
          cases hg
  unfold scanAll at h
  cases hm : r.rows.mapM (scanRow width read) with
  | error e =>
    rw [hm] at h
    rw [← Except.error.inj h]
    exact hrows _ e hm
  | ok as =>
    rw [hm] at h
    cases he : r.rowsError with
    | none => simp [he, bind, Except.bind] at h
    | some text =>
      simp only [he, bind, Except.bind] at h
      rw [← Except.error.inj h]
      exact hC.only_plain text

theorem changeOne_raises (c : String) {missing : Cause} (hm : C missing) (q : Statement) :
    Raises C Anyhow (changeOne c missing q) := by
  refine (send_raises hC q).context.bind fun r => Raises.bind (.ofExcept fun f h => ?_) fun n => ?_
  · unfold touched at h
    cases ha : r.affected with
    | error text =>
      rw [ha] at h
      rw [← Except.error.inj h]
      exact hC.only_plain text
    | ok n =>
      rw [ha] at h
      cases h
  · split
    · exact .raise hm
    · exact .pure _

theorem insertNew_raises (q : Statement) : Raises C Anyhow (insertNew q) := by
  refine Raises.state.bind fun b => ?_
  split
  · exact firstRow_raises hC _ q
  · exact (send_raises hC q).bind fun _ => .pure _

end

variable (hC : Cause.StoreClass C)
include hC

namespace Products

theorem read_raises (keep : Bool) (id : Int) : Raises C Anyhow (read keep id) :=
  readOne_raises hC _ (hC.missing _ _) _ _

theorem save_raises (p : Product) : Raises C Anyhow (save p) := by
  unfold save
  split
  · exact (insertNew_raises hC _).context.bind fun _ => .pure _
  · exact (changeOne_raises hC _ (hC.missing _ _) _).bind fun _ => .pure _

end Products

namespace Orders

theorem loadLines_raises (os : List Order) : Raises C Anyhow (loadLines os) := by
  unfold loadLines
  split
  · exact .pure _
  · exact (allRows_raises hC _ _ _).bind fun _ => .pure _

theorem read_raises (keep : Bool) (id : Int) : Raises C Anyhow (read keep id) := by
  refine (readOne_raises hC _ (hC.missing _ _) _ _).bind fun o => ?_
  refine (loadLines_raises hC [o]).bind fun os => ?_
  split <;> exact .pure _

theorem insertLines_raises (id : Int) (i : Nat) (ls : List Line) :
    Raises C Anyhow (insertLines id i ls) := by
  induction ls generalizing i with
  | nil => exact .pure _
  | cons l ls ih => exact (send_raises hC _).context.bind fun _ => ih (i + 1)

theorem storeRow_raises (o : Order) : Raises C Anyhow (storeRow o) := by
  unfold storeRow
  split
  · exact (insertNew_raises hC _).context
  · refine Raises.bind ?_ fun _ => .pure _
    exact (changeOne_raises hC _ (hC.missing _ _) _).bind fun _ =>
      (send_raises hC _).context.bind fun _ => .pure _

/-- **An order that matches is not refused for its total.** -/
theorem save_raises {o : Order} (ho : o.Balanced) : Raises C Anyhow (save o) := by
  have hset : ∀ (d : Draft) (b : Backend), True → True := fun _ _ _ => trivial
  have hwrite : Raises C (fun _ : Draft => True) (write o) := by
    unfold write
    rw [if_pos (Order.balanced_iff.mpr ho)]
    refine within_raises hC hset ?_
    refine (onStore_raises hset (storeRow_raises hC o)).bind fun id => Raises.bind ?_ fun _ => ?_
    · exact fun d hd => .ok hd _
    · exact onStore_raises hset (insertLines_raises hC id 0 o.items)
  intro b hb
  have h := hwrite ⟨b, o.id⟩ trivial
  unfold save
  rcases hw : write o ⟨b, o.id⟩ with ⟨r, d⟩
  rw [hw] at h
  cases r with
  | ok u => exact .ok trivial _
  | failed f => exact .failed trivial (h.2 f rfl)
  | panicked t => exact .panicked trivial t

end Orders

end Store

end OrderDesk
