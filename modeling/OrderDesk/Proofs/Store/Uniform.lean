import OrderDesk.Proofs.Store.Conversation
import OrderDesk.Proofs.Store.Engine
import OrderDesk.Store.Categories
import OrderDesk.Store.Products

/-!
# One call to two engines

A call on the store does not look at the dialect of the engine, apart from how a new id is told. So
to two engines that tell the same it sends the same, and it ends in the same way. Nothing is assumed
of what the second engine says to statements that the first one is never sent: which statements
come next depends on the answers so far, so the two runs are compared answer by answer.

* `SameAnswer`, `TellSame`    two engines tell the same to what one of them is sent;
* `Uniform x`                 the action sends the same to engines that tell the same;
* `Uniform.bind`, ...         actions built from such actions;
* `within_uniform`            transactions;
* `Orders.save_uniform`, ...  the calls.
-/

set_option linter.unusedSectionVars false

namespace OrderDesk.Store

/-! ## engines that tell the same -/

/-- does a statement make a row whose new id is asked for -/
def Statement.makesId : Statement → Bool
  | insertProduct .. | insertOrder .. | insertCategory .. => true
  | _ => false

/-- is a statement about one of the four tables, and not about the schema -/
def Statement.onTables (q : Statement) : Bool := q.subject != .schema

/-- the rows of a reply, what is said at their end, and the number of rows touched -/
def Reply.told (r : Reply) : List Row × Option String × Except String Int :=
  (r.rows, r.rowsError, r.affected)

/-- Two answers to one statement tell the same: the id of a new row where the statement makes one,
else rows and row counts. -/
def SameAnswer (d₁ d₂ : Dialect) (x₁ x₂ : Statement × Except Failure Reply) : Prop :=
  if x₁.1.makesId then newId d₁ x₁.2 = newId d₂ x₂.2
  else x₁.2.map Reply.told = x₂.2.map Reply.told

/-- Two engines tell the same to what is sent. -/
def TellSame (e₁ e₂ : Remote) (xs : List Sent) : Prop :=
  List.Forall₂ (SameAnswer e₁.dialect e₂.dialect) (e₁.exchanges xs) (e₂.exchanges xs)

/-- Two engines are both in a transaction or both not, and refuse the same signals. -/
structure Twins (e₁ e₂ : Remote) : Prop where
  refusals : e₁.refusals = e₂.refusals
  busy : e₁.busy = e₂.busy

section
variable {e₁ e₂ : Remote} {xs ys : List Sent} {q : Statement}

theorem Twins.after (h : Twins e₁ e₂) (xs : List Sent) : Twins (e₁.after xs) (e₂.after xs) :=
  ⟨by rw [Remote.refusals_after, Remote.refusals_after, h.refusals],
    Remote.busy_after h.refusals h.busy xs⟩

theorem TellSame.statement_iff : TellSame e₁ e₂ (.statement q :: xs) ↔
    SameAnswer e₁.dialect e₂.dialect (q, (e₁.answer q).1) (q, (e₂.answer q).1) ∧
      TellSame (e₁.hear (.statement q)) (e₂.hear (.statement q)) xs := by
  simp only [TellSame, Remote.exchanges, List.forall₂_cons, Remote.dialect_hear]

theorem TellSame.split (h : TellSame e₁ e₂ (xs ++ ys)) :
    TellSame e₁ e₂ xs ∧ TellSame (e₁.after xs) (e₂.after xs) ys := by
  induction xs generalizing e₁ e₂ with
  | nil => exact ⟨.nil, h⟩
  | cons x xs ih =>
    cases x with
    | statement q =>
      obtain ⟨hfirst, hrest⟩ := TellSame.statement_iff.mp h
      obtain ⟨hxs, hys⟩ := ih hrest
      exact ⟨TellSame.statement_iff.mpr ⟨hfirst, hxs⟩, hys⟩
    | signal x =>
      have hrest : TellSame (e₁.hear (.signal x)) (e₂.hear (.signal x)) (xs ++ ys) := h
      obtain ⟨hxs, hys⟩ := ih hrest
      exact ⟨hxs, hys⟩

end

/-! ## actions that send the same -/

variable {σ α β : Type} [Part σ Backend]

/-- The action sends something to an engine at the far end; and run from the same state against
another engine that tells the same to it, it sends the same and ends in the same way. -/
def Uniform (x : Action σ α) : Prop :=
  ∀ (s : σ) (e₁ e₂ : Remote), storeOf s = .remote e₁ → Twins e₁ e₂ →
    ∃ xs, storeOf (x s).2 = .remote (e₁.after xs) ∧
      (∀ q, Sent.statement q ∈ xs → q.onTables = true) ∧
      (TellSame e₁ e₂ xs → x (Part.set (Backend.remote e₂) s)
        = ((x s).1, Part.set (Backend.remote (e₂.after xs)) (x s).2))

namespace Uniform

variable {x : Action σ α}

theorem of_still {o : Outcome α} (hx : ∀ s, x s = (o, s)) : Uniform x := by
  intro s e₁ e₂ hs _
  refine ⟨[], by rw [hx]; exact hs, fun _ hq => absurd hq List.not_mem_nil, fun _ => ?_⟩
  rw [hx, hx]
  rfl

protected theorem pure (a : α) : Uniform (pure a : Action σ α) := of_still fun _ => rfl

theorem fail (f : Failure) : Uniform (Action.fail f : Action σ α) := of_still fun _ => rfl

theorem panicWith (t : String) : Uniform (Action.panicWith t : Action σ α) :=
  of_still fun _ => rfl

/-- what is sent is put together, and the answers to it are split in the same way -/
protected theorem bind {f : α → Action σ β} (hx : Uniform x) (hf : ∀ a, Uniform (f a)) :
    Uniform (x >>= f) := by
  intro s e₁ e₂ hs ht
  obtain ⟨xs, hsent, hq, hsame⟩ := hx s e₁ e₂ hs ht
  rcases hxs : x s with ⟨o, s₁⟩
  rw [hxs] at hsent hsame
  cases o with
  | ok a =>
    obtain ⟨ys, hsent', hq', hsame'⟩ := hf a s₁ _ _ hsent (ht.after xs)
    rw [Action.bind_of_ok hxs]
    refine ⟨xs ++ ys, by rw [hsent', Remote.after_append], fun q hmem => ?_, fun htell => ?_⟩
    · exact (List.mem_append.mp hmem).elim (hq q) (hq' q)
    · obtain ⟨htx, hty⟩ := htell.split
      rw [Action.bind_of_ok (hsame htx), hsame' hty, Remote.after_append]
  | failed e =>
    rw [Action.bind_of_failed hxs]
    exact ⟨xs, hsent, hq, fun htell => Action.bind_of_failed (hsame htell)⟩
  | panicked t =>
    rw [Action.bind_of_panicked hxs]
    exact ⟨xs, hsent, hq, fun htell => Action.bind_of_panicked (hsame htell)⟩

/-- the end of an action is turned into another one, and nothing more is sent -/
theorem of_end {x : Action σ α} {y : Action σ β} (hx : Uniform x) (k : Outcome α → Outcome β)
    (hy : ∀ s, y s = (k (x s).1, (x s).2)) : Uniform y := by
  intro s e₁ e₂ hs ht
  obtain ⟨xs, hsent, hq, hsame⟩ := hx s e₁ e₂ hs ht
  refine ⟨xs, by rw [hy]; exact hsent, hq, fun htell => ?_⟩
  rw [hy, hy, hsame htell]

/-- a failure under what was being done -/
def named (c : String) : Outcome α → Outcome α
  | .failed f => .failed (.within c f)
  | o => o

/-- a failure as a value -/
def attempted : Outcome α → Outcome (Except Failure α)
  | .ok a => .ok (.ok a)
  | .failed f => .ok (.error f)
  | .panicked t => .panicked t

theorem context {c : String} (hx : Uniform x) : Uniform (x.context c) := by
  refine hx.of_end (named c) fun s => ?_
  unfold Action.context
  rcases x s with ⟨o, s₁⟩
  cases o <;> rfl

theorem attempt (hx : Uniform x) : Uniform x.attempt := by
  refine hx.of_end attempted fun s => ?_
  unfold Action.attempt
  rcases x s with ⟨o, s₁⟩
  cases o <;> rfl

/-- what becomes of one answer is the same for answers that tell the same -/
theorem of_hears {y : Action Backend α} {q : Statement}
    {read : Dialect → Except Failure Reply → Except Failure α} (h : Hears q read y)
    (hq : q.onTables = true)
    (hread : ∀ d₁ d₂ a₁ a₂, SameAnswer d₁ d₂ (q, a₁) (q, a₂) → read d₁ a₁ = read d₂ a₂) :
    Uniform y := by
  intro b e₁ e₂ hb _
  obtain rfl : b = .remote e₁ := hb
  have hstate : ∀ (r : Except Failure α) (b : Backend), (Action.ofExcept r b).2 = b := by
    intro r b
    cases r <;> rfl
  refine ⟨[.statement q], by rw [h e₁]; exact hstate _ _, fun q' hmem => ?_, fun htell => ?_⟩
  · rwa [Sent.statement.inj (List.mem_singleton.mp hmem)]
  · have hsame := hread _ _ _ _ (TellSame.statement_iff.mp htell).1
    show y (.remote e₂) = ((y (.remote e₁)).1, .remote (e₂.hear (.statement q)))
    rw [h e₁, h e₂, hsame]
    cases read e₂.dialect (e₂.answer q).1 <;> rfl

/-- what is read of the rows of an answer, or of its row count, is the same -/
theorem of_reading {y : Action Backend α} {q : Statement}
    {read : Except Failure Reply → Except Failure α} (h : Hears q (fun _ => read) y)
    (hid : q.makesId = false) (hq : q.onTables = true)
    (hread : ∀ a₁ a₂, a₁.map Reply.told = a₂.map Reply.told → read a₁ = read a₂) : Uniform y := by
  refine of_hears h hq fun d₁ d₂ a₁ a₂ hsame => hread a₁ a₂ ?_
  rwa [SameAnswer, if_neg (by simp [hid])] at hsame

end Uniform

/-! ## the ways to read a reply -/

section
variable {a₁ a₂ : Except Failure Reply}

theorem bind_told {f : Reply → Except Failure α} (hf : ∀ r r', r.told = r'.told → f r = f r')
    (h : a₁.map Reply.told = a₂.map Reply.told) : a₁.bind f = a₂.bind f := by
  cases a₁ with
  | error e =>
    cases a₂ with
    | error e' => rw [Except.error.inj h]
    | ok r' => cases h
  | ok r =>
    cases a₂ with
    | error e' => cases h
    | ok r' => exact hf r r' (Except.ok.inj h)

theorem mapError_told {g : Failure → Failure} (h : a₁.map Reply.told = a₂.map Reply.told) :
    (a₁.mapError g).map Reply.told = (a₂.mapError g).map Reply.told := by
  have hmap : ∀ a : Except Failure Reply,
      (a.mapError g).map Reply.told = (a.map Reply.told).mapError g := by
    intro a
    cases a <;> rfl
  rw [hmap, hmap, h]

theorem firstOf_told (scan : Row → Except Failure α) (r r' : Reply) (h : r.told = r'.told) :
    firstOf scan r = firstOf scan r' := by
  simp only [Reply.told, Prod.mk.injEq] at h
  rw [firstOf, firstOf, h.1, h.2.1]

theorem scanAll_told (scan : Row → Except Failure α) (r r' : Reply) (h : r.told = r'.told) :
    scanAll scan r = scanAll scan r' := by
  simp only [Reply.told, Prod.mk.injEq] at h
  rw [scanAll, scanAll, h.1, h.2.1]

theorem touched_told (r r' : Reply) (h : r.told = r'.told) : touched r = touched r' := by
  simp only [Reply.told, Prod.mk.injEq] at h
  rw [touched, touched, h.2.2]

end

section
variable {q : Statement}

theorem firstRow_uniform (scan : Row → Except Failure α) (hid : q.makesId = false)
    (hq : q.onTables = true) : Uniform (firstRow scan q) :=
  .of_reading (.firstRow scan q) hid hq fun _ _ => bind_told (firstOf_told scan)

theorem readOne_uniform (c : String) (missing : Cause) (scan : Row → Except Failure α)
    (hid : q.makesId = false) (hq : q.onTables = true) :
    Uniform (readOne c missing scan q) := by
  refine .of_reading (.readOne c missing scan q) hid hq fun a₁ a₂ h => ?_
  unfold oneOf
  rw [bind_told (firstOf_told scan) h]

theorem allRows_uniform (c : String) (scan : Row → Except Failure α) (hid : q.makesId = false)
    (hq : q.onTables = true) : Uniform (allRows c scan q) :=
  .of_reading (.allRows c scan q) hid hq fun _ _ h =>
    bind_told (scanAll_told scan) (mapError_told h)

theorem changeOne_uniform (c : String) (missing : Cause) (hid : q.makesId = false)
    (hq : q.onTables = true) : Uniform (changeOne c missing q) := by
  refine .of_reading (.changeOne c missing q) hid hq fun _ _ h => bind_told ?_ (mapError_told h)
  intro r r' h
  rw [touched_told r r' h]

theorem sendOnly_uniform (c : String) (hid : q.makesId = false) (hq : q.onTables = true) :
    Uniform ((send q).context c >>= fun _ => pure ()) := by
  refine .of_reading (((Hears.send q).context c).bind (g := fun _ => .ok ()) fun _ => rfl) hid hq
    fun _ _ h => ?_
  exact bind_told (fun _ _ _ => rfl) (mapError_told h)

/-- the one place where engines differ: how the id of a new row is told -/
theorem insertNew_uniform (hid : q.makesId = true) (hq : q.onTables = true)
    (hreturning : ∀ d : Dialect, q.isQuery d = d.returning) : Uniform (insertNew q) := by
  refine .of_hears (.insertNew hreturning) hq fun d₁ d₂ a₁ a₂ h => ?_
  rwa [SameAnswer, if_pos hid] at h

end

/-! ## transactions -/

variable [LawfulPart σ Backend]

theorem onStore_uniform {x : Action Backend α} (hx : Uniform x) :
    Uniform (onStore x : Action σ α) := by
  intro s e₁ e₂ hs ht
  obtain ⟨xs, hsent, hq, hsame⟩ := hx (storeOf s) e₁ e₂ hs ht
  have hon : ∀ s : σ, (onStore x : Action σ α) s
      = ((x (storeOf s)).1, Part.set (x (storeOf s)).2 s) := fun _ => rfl
  have hstore : (x (storeOf s)).2 = .remote (e₁.after xs) := hsent
  refine ⟨xs, by rw [hon, storeOf_set, hstore], hq, fun htell => ?_⟩
  have hrun : x (.remote e₂) = ((x (storeOf s)).1, .remote (e₂.after xs)) := hsame htell
  rw [hon, hon, storeOf_set, hrun, LawfulPart.set_set, LawfulPart.set_set]

theorem signal_uniform {y : Action Backend Unit} (x : Signal)
    (hy : ∀ e : Remote, y (.remote e)
      = Action.ofExcept (e.signal x).1 (.remote (e.hear (.signal x)))) : Uniform y := by
  intro b e₁ e₂ hb ht
  obtain rfl : b = .remote e₁ := hb
  have hstate : ∀ (r : Except Failure Unit) (b : Backend),
      Action.ofExcept r b = ((Action.ofExcept r b).1, b) := by
    intro r b
    cases r <;> rfl
  refine ⟨[.signal x], by rw [hy, hstate]; rfl, fun q hmem => ?_, fun _ => ?_⟩
  · cases List.mem_singleton.mp hmem
  · have hrefused : (e₂.signal x).1 = (e₁.signal x).1 := by
      simp only [Remote.signal, ht.refusals]
    show y (.remote e₂) = ((y (.remote e₁)).1, .remote (e₂.hear (.signal x)))
    rw [hy, hy, hrefused, hstate]
    cases (e₁.signal x).1 <;> rfl

theorem conclude_uniform (o : Outcome α) : Uniform (conclude o : Action σ α) := by
  have hcommit : Uniform (onStore commit : Action σ Unit) :=
    onStore_uniform (signal_uniform .commit commit_heard)
  have hrollback : Uniform (onStore rollback : Action σ Unit).attempt :=
    (onStore_uniform (signal_uniform .rollback rollback_heard)).attempt
  cases o with
  | ok a => exact hcommit.context.bind fun _ => .pure a
  | failed f =>
    refine hrollback.bind fun r => ?_
    cases r with
    | ok u => exact .fail f
    | error g => exact .fail _
  | panicked t => exact hrollback.bind fun _ => .panicWith t

theorem within_uniform {body : Action σ α} (hbody : Uniform body) : Uniform (within body) := by
  have hending : Uniform (ending body) := hbody.of_end .ok fun _ => rfl
  have hbegin : Uniform (Action.context "begin tx" (onStore begin) : Action σ Unit) :=
    (onStore_uniform (signal_uniform .begin begin_heard)).context
  have hopened : Uniform ((Action.context "begin tx" (onStore begin) : Action σ Unit) >>= fun _ =>
      ending body >>= conclude) := hbegin.bind fun _ => hending.bind conclude_uniform
  intro s e₁ e₂ hs ht
  -- both engines are in a transaction, or neither is
  have hbusy : inTransaction s = e₁.busy := by
    show (storeOf s).isOpen = _
    rw [hs]
    rfl
  have hbusy' : inTransaction (Part.set (Backend.remote e₂) s) = e₁.busy := by
    show (storeOf (Part.set (Backend.remote e₂) s)).isOpen = _
    rw [storeOf_set, ht.busy]
    rfl
  by_cases h : e₁.busy = true
  · have hin : ∀ t : σ, inTransaction t = true → within body t = body t := by
      intro t ht
      unfold within
      rw [if_pos ht]
    rw [hin s (hbusy.trans h), hin _ (hbusy'.trans h)]
    exact hbody s e₁ e₂ hs ht
  · have h : e₁.busy = false := by simpa using h
    rw [within_eq (hbusy.trans h), within_eq (hbusy'.trans h)]
    exact hopened s e₁ e₂ hs ht

/-! ## the calls -/

theorem Products.read_uniform (keep : Bool) (id : Int) : Uniform (Products.read keep id) :=
  readOne_uniform _ _ _ rfl rfl

theorem Products.save_uniform (p : Product) : Uniform (Products.save p) := by
  unfold Products.save
  split
  · exact (insertNew_uniform rfl rfl fun _ => rfl).context.bind fun _ => .pure _
  · exact (changeOne_uniform _ _ rfl rfl).bind fun _ => .pure _

theorem Products.delete_uniform (id : Int) : Uniform (Products.delete id) :=
  changeOne_uniform _ _ rfl rfl

theorem Products.list_uniform (fragment : String) (page : PageRequest) :
    Uniform (Products.list fragment page) :=
  (firstRow_uniform scanInt rfl rfl).context.bind fun _ =>
    (allRows_uniform _ _ rfl rfl).bind fun _ => .pure _

namespace Orders

theorem insertLines_uniform (id : Int) (i : Nat) (ls : List Line) :
    Uniform (insertLines id i ls) := by
  induction ls generalizing i with
  | nil => exact .pure _
  | cons l ls ih =>
    have hline := (sendOnly_uniform (q := .insertItem id i l)
      ("insert item " ++ toString i ++ " of order " ++ toString id) rfl rfl).bind
        fun _ => ih (i + 1)
    rwa [Action.bind_assoc] at hline

theorem storeRow_uniform (o : Order) : Uniform (storeRow o) := by
  unfold storeRow
  split
  · exact (insertNew_uniform rfl rfl fun _ => rfl).context
  · refine Uniform.bind ?_ fun _ => .pure _
    exact (changeOne_uniform _ _ rfl rfl).bind fun _ => sendOnly_uniform _ rfl rfl

/-- the id of the draft is not part of the store, so it changes with either engine -/
theorem noteId_uniform (id : Int) : Uniform (Action.change fun d : Draft => { d with id }) := by
  intro d e₁ e₂ hd _
  exact ⟨[], hd, fun _ hq => absurd hq List.not_mem_nil, fun _ => rfl⟩

theorem write_uniform (o : Order) : Uniform (write o) := by
  unfold write
  split
  · exact within_uniform ((onStore_uniform (storeRow_uniform o)).bind fun id =>
      (noteId_uniform id).bind fun _ => onStore_uniform (insertLines_uniform id 0 o.items))
  · exact .fail _

theorem save_uniform (o : Order) : Uniform (save o) := by
  intro b e₁ e₂ hb ht
  obtain rfl : b = .remote e₁ := hb
  obtain ⟨xs, hsent, hq, hsame⟩ := write_uniform o ⟨.remote e₁, o.id⟩ e₁ e₂ rfl ht
  have hsave : ∀ b, (save o b).2 = (write o ⟨b, o.id⟩).2.store := by
    intro b
    unfold save
    rcases write o ⟨b, o.id⟩ with ⟨r, d⟩
    cases r <;> rfl
  refine ⟨xs, (hsave _).trans hsent, hq, fun htell => ?_⟩
  have hw : write o ⟨.remote e₂, o.id⟩
      = ((write o ⟨.remote e₁, o.id⟩).1, { (write o ⟨.remote e₁, o.id⟩).2 with
          store := .remote (e₂.after xs) }) := hsame htell
  show save o (.remote e₂) = _
  unfold save
  rw [hw]
  rcases write o ⟨.remote e₁, o.id⟩ with ⟨r, d⟩
  cases r <;> rfl

theorem loadLines_uniform (os : List Order) : Uniform (loadLines os) := by
  unfold loadLines
  split
  · exact .pure _
  · exact (allRows_uniform _ _ rfl rfl).bind fun _ => .pure _

theorem read_uniform (keep : Bool) (id : Int) : Uniform (read keep id) := by
  refine (readOne_uniform _ _ _ rfl rfl).bind fun o => (loadLines_uniform [o]).bind fun os => ?_
  split <;> exact .pure _

theorem find_uniform (status : Option Status) (page : PageRequest) :
    Uniform (find status page) := by
  refine (firstRow_uniform scanInt rfl rfl).context.bind fun total => ?_
  split
  · exact .pure _
  · exact (allRows_uniform _ _ rfl rfl).bind fun os =>
      (loadLines_uniform os).bind fun _ => .pure _

theorem exists?_uniform (id : Int) : Uniform (exists? id) :=
  (firstRow_uniform scanInt rfl rfl).context.bind fun _ => .pure _

theorem delete_uniform (id : Int) : Uniform (delete id) := by
  refine within_uniform ?_
  have hdelete := (sendOnly_uniform (q := .deleteItems id)
    ("delete items of order " ++ toString id) rfl rfl).bind fun _ =>
      changeOne_uniform (q := .deleteOrder id) ("delete order " ++ toString id) (missing id) rfl rfl
  rwa [Action.bind_assoc] at hdelete

end Orders

namespace Categories

theorem save_uniform (c : Category) : Uniform (save c) := by
  unfold save
  split
  · exact (insertNew_uniform rfl rfl fun _ => rfl).context.bind fun _ => .pure _
  · exact (changeOne_uniform _ _ rfl rfl).bind fun _ => .pure _

theorem nameTaken_uniform (name : String) (besides : Int) : Uniform (nameTaken name besides) :=
  (firstRow_uniform scanInt rfl rfl).context.bind fun _ => .pure _

theorem get_uniform (id : Int) : Uniform (get id) := readOne_uniform _ _ _ rfl rfl

theorem delete_uniform (id : Int) : Uniform (delete id) := changeOne_uniform _ _ rfl rfl

theorem list_uniform : Uniform list := allRows_uniform _ _ rfl rfl

end Categories

end OrderDesk.Store
