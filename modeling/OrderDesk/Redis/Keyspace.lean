import OrderDesk.Action
import OrderDesk.Number.Word

/-!
# A keyspace of texts that may expire

* `Keyspace`               keys with their values and what is left of their time;
* `Keyspace.advance`       lets time pass;
* `lifetime`               how long a key lives that is set for some nanoseconds;
* `timeFor`                what a key has left that is set, which can keep what it had;
* `Entry.millisLeft`       the whole milliseconds an entry has left;
* `Redis`                  a keyspace behind a connection;
* `fetch`, `put`, `putNew`, `remove`      the commands.
-/

namespace OrderDesk.Redis

/-- A value, and the nanoseconds it has left; without them it stays. -/
structure Entry where
  value : String
  left : Option Int
  deriving DecidableEq, Repr, Inhabited

/-- Keys with their entries. -/
abbrev Keyspace := List (String × Entry)

namespace Keyspace

def get? (ks : Keyspace) (key : String) : Option Entry := ks.lookup key

def erase (ks : Keyspace) (key : String) : Keyspace := ks.filter (·.1 != key)

/-- a keyspace with a key set anew -/
def insert (ks : Keyspace) (key : String) (e : Entry) : Keyspace := (key, e) :: ks.erase key

/-- what is left of an entry after some nanoseconds; one with no time left is gone -/
def Entry.after (nanos : Int) (e : Entry) : Option Entry :=
  match e.left with
  | none => some e
  | some before =>
    let left := Word.wrap (before - nanos)
    if left ≤ 0 then none else some { e with left := some left }

/-- lets some nanoseconds pass; a negative number of them winds time back -/
def advance (nanos : Int) (ks : Keyspace) : Keyspace :=
  ks.filterMap fun (k, e) => (Entry.after nanos e).map (k, ·)

end Keyspace

/-- the nanoseconds of a millisecond -/
def milli : Int := 1000000

/-- How many nanoseconds a key lives that is set for some: whole milliseconds, and at least one.
A time that is not positive is no limit. -/
def lifetime (nanos : Int) : Option Int :=
  if nanos ≤ 0 then none else some (max 1 (nanos / milli) * milli)

/-- the time that stands for what a key has left already -/
def keepTime : Int := -1

/-- what a key has left that is set for some nanoseconds -/
def timeFor (ks : Keyspace) (key : String) (nanos : Int) : Option Int :=
  if nanos = keepTime then (ks.get? key).bind Entry.left else lifetime nanos

/-- the whole milliseconds an entry has left, zero for one that stays -/
def Entry.millisLeft (e : Entry) : Int := (e.left.getD 0).tdiv milli

end OrderDesk.Redis

namespace OrderDesk

/-- A keyspace behind a connection: with a refusal every command fails. -/
structure Redis where
  keys : Redis.Keyspace := []
  refusal : Option String := none
  deriving DecidableEq, Repr, Inhabited

namespace Redis

def command {α : Type} (f : Keyspace → α × Keyspace) : Action Redis α := fun r =>
  match r.refusal with
  | some text => (.failed (.plain text), r)
  | none =>
    let (a, ks) := f r.keys
    (.ok a, { r with keys := ks })

def fetch (key : String) : Action Redis (Option String) :=
  command fun ks => ((ks.get? key).map Entry.value, ks)

/-- sets a key for some nanoseconds -/
def put (key value : String) (nanos : Int) : Action Redis Unit :=
  command fun ks => ((), ks.insert key ⟨value, timeFor ks key nanos⟩)

/-- sets a key that is not there, for some nanoseconds; was it set -/
def putNew (key value : String) (nanos : Int) : Action Redis Bool :=
  if nanos < 0 ∧ nanos ≠ keepTime then
    Action.fail (.plain "ERR invalid expire time in 'set' command")
  else command fun ks =>
    match ks.get? key with
    | some _ => (false, ks)
    | none => (true, ks.insert key ⟨value, timeFor ks key nanos⟩)

def remove (key : String) : Action Redis Unit := command fun ks => ((), ks.erase key)

end Redis

end OrderDesk
