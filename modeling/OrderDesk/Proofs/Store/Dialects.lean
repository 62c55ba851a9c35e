import OrderDesk.Proofs.Store.Placeholders

/-!
# All engines are sent the same statements

* `RepoCall`                  a call on the store: products, orders or categories;
* `sends x e`                 what an action sends to an engine at the far end;
* `Spelled`                   how the texts of one statement differ between the engines;
* `statements_agree`          a call sends the same to all engines, each in its own spelling.
-/

namespace OrderDesk.Store

/-- A call on the store. -/
inductive RepoCall where
  | productGet (id : Int)
  | productLock (id : Int)
  | productSave (p : Product)
  | productDelete (id : Int)
  | productList (fragment : String) (page : PageRequest)
  | orderSave (o : Order)
  | orderGet (id : Int)
  | orderLock (id : Int)
  | orderFind (status : Option Status) (page : PageRequest)
  | orderExists (id : Int)
  | orderDelete (id : Int)
  | categoryGet (id : Int)
  | categoryNameTaken (name : String) (besides : Int)
  | categorySave (c : Category)
  | categoryDelete (id : Int)
  | categoryList

namespace RepoCall

def Value : RepoCall → Type
  | productGet _ | productLock _ | productSave _ => Product
  | productList .. => Page Product
  | orderSave _ | orderGet _ | orderLock _ => Order
  | orderFind .. => Page Order
  | orderExists _ | categoryNameTaken .. => Bool
  | categoryGet _ | categorySave _ => Category
  | categoryList => List Category
  | productDelete _ | orderDelete _ | categoryDelete _ => Unit

def perform : (c : RepoCall) → Action Backend c.Value
  | productGet id => Products.get id
  | productLock id => Products.lock id
  | productSave p => Products.save p
  | productDelete id => Products.delete id
  | productList fragment page => Products.list fragment page
  | orderSave o => Orders.save o
  | orderGet id => Orders.get id
  | orderLock id => Orders.lock id
  | orderFind status page => Orders.find status page
  | orderExists id => Orders.exists? id
  | orderDelete id => Orders.delete id
  | categoryGet id => Categories.get id
  | categoryNameTaken name besides => Categories.nameTaken name besides
  | categorySave c => Categories.save c
  | categoryDelete id => Categories.delete id
  | categoryList => Categories.list

theorem perform_uniform (c : RepoCall) : Uniform c.perform := by
  cases c with
  | productGet id | productLock id => exact Products.read_uniform _ id
  | productSave p => exact Products.save_uniform p
  | productDelete id => exact Products.delete_uniform id
  | productList fragment page => exact Products.list_uniform fragment page
  | orderSave o => exact Orders.save_uniform o
  | orderGet id | orderLock id => exact Orders.read_uniform _ id
  | orderFind status page => exact Orders.find_uniform status page
  | orderExists id => exact Orders.exists?_uniform id
  | orderDelete id => exact Orders.delete_uniform id
  | categoryGet id => exact Categories.get_uniform id
  | categoryNameTaken name besides => exact Categories.nameTaken_uniform name besides
  | categorySave c => exact Categories.save_uniform c
  | categoryDelete id => exact Categories.delete_uniform id
  | categoryList => exact Categories.list_uniform

end RepoCall

/-! ## what is sent -/

section
variable {α : Type} {x : Action Backend α} {e : Remote} {xs : List Sent}

/-- what an action sends to an engine at the far end -/
def sends (x : Action Backend α) (e : Remote) : List Sent :=
  match (x (.remote e)).2 with
  | .remote e' => e'.sent.drop e.sent.length
  | .embedded _ => []

theorem sends_eq (h : storeOf (x (.remote e)).2 = .remote (e.after xs)) : sends x e = xs := by
  have hstore : (x (.remote e)).2 = .remote (e.after xs) := h
  unfold sends
  rw [hstore]
  show (e.after xs).sent.drop e.sent.length = xs
  rw [Remote.sent_after, List.drop_left]

end

/-- How the texts of a statement differ between three engines: the marks of the first one are
numbered for the second one, which also asks for new ids, and the third one is not told to keep
rows. In each there is a mark for each value, and the numbers count up from one. -/
structure Spelled (my pg lite : Dialect) (q : Statement) : Prop where
  numbered : ∃ p ps, (∀ x ∈ p :: ps, '?' ∉ x) ∧
    (q.sql my).toList = weave questionMark 1 p ps ∧
    (q.sql pg).toList = weave dollarMark 1 p ps ++ q.idSuffix.toList
  unlocked : q.sql my = q.sql lite ++ q.lockSuffix
  marks : (q.sql my).toList.count '?' = q.args.length ∧
    (q.sql lite).toList.count '?' = q.args.length
  numbers : numbersIn (q.sql pg).toList = List.range' 1 q.args.length

theorem spelled {q : Statement} (hq : q.onTables = true) :
    Spelled (.of .mysql) (.of .postgres) (.of .sqlite) q := by
  obtain ⟨htidy, hcount⟩ := marked_iff.mp (template_marked hq)
  have hmy : q.sql (.of .mysql) = q.template (.of .mysql) := rfl
  have hlite : q.sql (.of .sqlite) = q.template (.of .sqlite) := rfl
  have hpg : (q.sql (.of .postgres)).toList
      = Dialect.numberFrom 0 ((q.template (.of .mysql)).toList ++ q.idSuffix.toList) := by
    rw [← String.toList_append, ← template_postgres hq]
    exact String.toList_ofList
  have hid : '?' ∉ q.idSuffix.toList ∧ tidy q.idSuffix.toList = true ∧
      q.idSuffix.toList.head?.any Char.isDigit = false := by
    unfold Statement.idSuffix
    split <;> rw [String.toList_ofList] <;> decide
  have hlock : q.lockSuffix.toList.count '?' = 0 := by
    unfold Statement.lockSuffix
    split <;> rw [String.toList_ofList] <;> decide
  obtain ⟨hfree, hidtidy, hidhead⟩ := hid
  refine ⟨?_, by rw [hmy, hlite, template_mysql hq], ⟨hcount, ?_⟩, ?_⟩
  · obtain ⟨p, ps, htext, -, hpieces⟩ := exists_weave 1 (q.template (.of .mysql)).toList
    refine ⟨p, ps, hpieces, htext, ?_⟩
    rw [hpg, htext]
    exact numberFrom_weave hpieces hfree
  · have h := hcount
    rw [template_mysql hq, String.toList_append, List.count_append, hlock] at h
    exact h
  · rw [hpg, numbersIn_numberFrom 0 (tidy_append htidy hidtidy hidhead), List.count_append, hcount,
      List.count_eq_zero.mpr hfree]
    rfl

/-- **All engines are sent the same statements.** A call on the store, whatever its arguments, sends
to an engine with numbered marks and to an embeddable one what it sends to the first one, if all
three tell the same; it ends in the same way, and each statement is spelled for each engine. -/
theorem statements_agree (c : RepoCall) {my pg lite : Remote} (hmy : my.dialect = .of .mysql)
    (hpg : pg.dialect = .of .postgres) (hlite : lite.dialect = .of .sqlite) (htpg : Twins my pg)
    (htlite : Twins my lite) (hspg : TellSame my pg (sends c.perform my))
    (hslite : TellSame my lite (sends c.perform my)) :
    sends c.perform pg = sends c.perform my ∧ sends c.perform lite = sends c.perform my ∧
      (c.perform (.remote pg)).1 = (c.perform (.remote my)).1 ∧
      (c.perform (.remote lite)).1 = (c.perform (.remote my)).1 ∧
      ∀ q, Sent.statement q ∈ sends c.perform my →
        Spelled my.dialect pg.dialect lite.dialect q := by
  have hother : ∀ e, Twins my e → TellSame my e (sends c.perform my) →
      sends c.perform e = sends c.perform my ∧
        (c.perform (.remote e)).1 = (c.perform (.remote my)).1 := by
    intro e ht hsame
    obtain ⟨xs, hsent, -, hrun⟩ := c.perform_uniform (.remote my) my e rfl ht
    rw [sends_eq hsent] at hsame ⊢
    have hrun : c.perform (.remote e) = _ := hrun hsame
    refine ⟨sends_eq ?_, by rw [hrun]⟩
    rw [hrun]
    rfl
  obtain ⟨xs, hsent, hq, -⟩ := c.perform_uniform (.remote my) my pg rfl htpg
  refine ⟨(hother pg htpg hspg).1, (hother lite htlite hslite).1, (hother pg htpg hspg).2,
    (hother lite htlite hslite).2, fun q hmem => ?_⟩
  rw [sends_eq hsent] at hmem
  rw [hmy, hpg, hlite]
  exact spelled (hq q hmem)

section
open Statement (insertOrder insertItem)

def twoLines : Order :=
  { id := 0, number := "ORD-1", status := .pending, total := .ofInt 5,
    lines := some [⟨1, "A", 2, .ofInt 1⟩, ⟨2, "B", 1, .ofInt 3⟩], createdAt := default,
    updatedAt := default }

/-- an engine that tells a new id beside its reply, and one that tells it as a row -/
def besideReply (d : Engine) : Remote :=
  { dialect := .of d, answers := [.ok { affected := .ok 1, id := 7 }] }

def asRow : Remote := { dialect := .of .postgres, answers := [.ok { rows := [[.int 7]] }] }

theorem statements_agree_twoLines :
    sends (Orders.save twoLines) asRow = [.signal .begin,
      .statement (insertOrder "ORD-1" "PENDING" (.ofInt 5) default default),
      .statement (insertItem 7 0 ⟨1, "A", 2, .ofInt 1⟩),
      .statement (insertItem 7 1 ⟨2, "B", 1, .ofInt 3⟩), .signal .commit] ∧
      Spelled (.of .mysql) (.of .postgres) (.of .sqlite)
        (insertItem 7 1 ⟨2, "B", 1, .ofInt 3⟩) := by
  have hsent : sends (Orders.save twoLines) (besideReply .mysql) = [.signal .begin,
      .statement (insertOrder "ORD-1" "PENDING" (.ofInt 5) default default),
      .statement (insertItem 7 0 ⟨1, "A", 2, .ofInt 1⟩),
      .statement (insertItem 7 1 ⟨2, "B", 1, .ofInt 3⟩), .signal .commit] := by decide +kernel
  have htell : ∀ e ∈ [asRow, besideReply .sqlite], TellSame (besideReply .mysql) e
      (sends (RepoCall.orderSave twoLines).perform (besideReply .mysql)) := by
    intro e he
    show TellSame _ e (sends (Orders.save twoLines) (besideReply .mysql))
    rw [hsent]
    rcases List.mem_pair.mp he with rfl | rfl <;> exact .cons rfl (.cons rfl (.cons rfl .nil))
  have hpg := htell asRow (by simp)
  have hlite := htell (besideReply .sqlite) (by simp)
  have htpg : Twins (besideReply .mysql) asRow := ⟨rfl, rfl⟩
  have htlite : Twins (besideReply .mysql) (besideReply .sqlite) := ⟨rfl, rfl⟩
  obtain ⟨hpg, -, -, -, hspelled⟩ :=
    statements_agree (.orderSave twoLines) rfl rfl rfl htpg htlite hpg hlite
  refine ⟨hpg.trans hsent, hspelled _ ?_⟩
  show _ ∈ sends (Orders.save twoLines) (besideReply .mysql)
  rw [hsent]
  simp

end

end OrderDesk.Store
