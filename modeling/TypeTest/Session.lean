import TypeTest.Assoc
import TypeTest.CodeText

/-!
# Sessions

Building a checker means analysing a whole project, so a session keeps each one that it has
built, by host program and by version, for as long as it is open.  A host has an entry from the
moment it is first asked about.  A build may have nothing to give; that is kept as well, but it is
built again the next time.

A session is data, and the operations on it are functions.  None of them builds: a run asks for
what is kept, builds what is not, and has the result recorded.
-/

namespace TypeTest

/-- The checkers built so far, by host and version, and the number of builds that ended well. -/
structure Session (η ι : Type) where
  hosts : Assoc η (Assoc CodeText (Option ι)) := .empty
  builds : Nat := 0

namespace Session

variable {η ι : Type} [DecidableEq η]

/-- A session in which nothing has been built. -/
def new : Session η ι := {}

/-- What is kept for a host. -/
def versionsOf (session : Session η ι) (host : η) : Assoc CodeText (Option ι) :=
  (session.hosts.get? host).getD .empty

/-- The instance kept for a host and a version, if there is one. -/
def instance? (session : Session η ι) (host : η) (version : CodeText) : Option ι :=
  ((session.versionsOf host).get? version).join

/-- Is anything kept for a host and a version? -/
def contains (session : Session η ι) (host : η) (version : CodeText) : Bool :=
  (session.versionsOf host).contains version

/-- Number of results of builds that are kept. -/
def size (session : Session η ι) : Nat :=
  session.hosts.entries.foldr (fun entry others => entry.2.size + others) 0

/-- Number of hosts with an entry. -/
def hostCount (session : Session η ι) : Nat := session.hosts.size

/-- Gives a host an entry, unless it has one. -/
def register (session : Session η ι) (host : η) : Session η ι :=
  if session.hosts.contains host then session
  else { session with hosts := session.hosts.insert host .empty }

/-- Keeps the result of a build and counts it. -/
def record (session : Session η ι) (host : η) (version : CodeText) (built : Option ι) :
    Session η ι where
  hosts := session.hosts.insert host ((session.versionsOf host).insert version built)
  builds := session.builds + 1

/-- Drops everything kept for a host. -/
def forget (session : Session η ι) (host : η) : Session η ι :=
  { session with hosts := session.hosts.erase host }

/-- Drops everything. -/
def close (session : Session η ι) : Session η ι :=
  { session with hosts := .empty }

/-- A one-line summary: how many hosts and how many instances there are. -/
def summary (session : Session η ι) : String :=
  s!"<VerificationSession hosts={session.hostCount} instances={session.size}>"

/-- An entry is all that registering a host adds: what is kept for any host stays the same. -/
theorem versionsOf_register (session : Session η ι) (host other : η) :
    (session.register host).versionsOf other = session.versionsOf other := by
  unfold register
  split
  · rfl
  · rename_i absent
    rw [Assoc.contains_eq_isSome_get?, Bool.not_eq_true, Option.isSome_eq_false_iff,
      Option.isNone_iff_eq_none] at absent
    unfold versionsOf
    rw [Assoc.get?_insert]
    split
    · rename_i same
      rw [same, absent]
      rfl
    · rfl

end Session

end TypeTest
