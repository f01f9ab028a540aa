import Scrutiny.Pattern.Basic
import Scrutiny.Text.Property

/-! # Matching

A match is followed through a pattern by threads: places in the text, each with the groups matched
on the way there. The threads of a list are in order of preference, and no two stand at one place.
The first thread that reaches the end of the pattern is the preferred match.
-/

namespace Scrutiny.Pattern

/-- The part of a text that a group matched. -/
structure Span where
  first : Nat
  last : Nat
  deriving Repr, DecidableEq, Inhabited

/-- A place that matching has reached, and what the groups matched on the way, by group number. -/
structure Thread where
  place : Nat
  groups : List (Nat × Span)
  deriving Repr, DecidableEq, Inhabited

namespace Assertion

/-- Whether a character belongs to words. -/
def isWordChar (unicode : Bool) (c : Char) : Bool :=
  if unicode then Text.Property.isWord c else c.isAlphanum || c == '_'

/-- Whether the character before a place belongs to a word. -/
def wordBefore (unicode : Bool) (text : Array Char) (place : Nat) : Bool :=
  0 < place && (text[place - 1]?.map (isWordChar unicode)).getD false

/-- Whether the character after a place belongs to a word. -/
def wordAfter (unicode : Bool) (text : Array Char) (place : Nat) : Bool :=
  (text[place]?.map (isWordChar unicode)).getD false

/-- Whether a condition holds at a place of a text. -/
def holds (condition : Assertion) (text : Array Char) (place : Nat) : Bool :=
  let before := if place = 0 then none else text[place - 1]?
  let after := text[place]?
  match condition with
  | textStart => place == 0
  | textEnd => place == text.size
  | lineStart false => place == 0 || before == some '\n'
  | lineStart true =>
    place == 0 || before == some '\n' || (before == some '\r' && after != some '\n')
  | lineEnd false => place == text.size || after == some '\n'
  | lineEnd true =>
    place == text.size || after == some '\r' || (after == some '\n' && before != some '\r')
  | wordBoundary u => wordBefore u text place != wordAfter u text place
  | notWordBoundary u => wordBefore u text place == wordAfter u text place
  | wordStart u => !wordBefore u text place && wordAfter u text place
  | wordEnd u => wordBefore u text place && !wordAfter u text place
  | wordStartHalf u => !wordBefore u text place
  | wordEndHalf u => !wordAfter u text place

end Assertion

namespace Thread

/-- Keep the first of the threads at each place. -/
def distinct (threads : List Thread) : List Thread :=
  threads.foldl
    (fun kept thread =>
      if kept.any (fun other => other.place == thread.place) then kept else kept ++ [thread])
    []

/-- Remember what a group matched, in place of what it matched before. -/
def close (thread : Thread) (index first : Nat) : Thread :=
  { thread with
    groups := (index, ⟨first, thread.place⟩) :: thread.groups.filter fun entry => entry.1 ≠ index }

end Thread

/-- Follow one more round of a repetition from each of several threads in turn, keeping account of
the places already left. -/
def rounds {σ : Type} (follow : List σ → Thread → List σ × List Thread) (seen : List σ)
    (threads : List Thread) : List σ × List Thread :=
  threads.foldl
    (fun state thread =>
      let next := follow state.1 thread
      (next.1, state.2 ++ next.2))
    (seen, [])

/-- Order what a repetition finds by going on and what it finds by stopping. -/
def prefer (greedy : Bool) (stop : Thread) (further : List Thread) : List Thread :=
  if greedy then further ++ [stop] else stop :: further

/-- All ends of a repetition after one round has ended at a thread. From each place the next round
begins at most once, and never where the first one began. The number bounds the rounds. -/
def again (step : Thread → List Thread) (greedy : Bool) (origin : Nat) :
    Nat → List Nat → Thread → List Nat × List Thread
  | 0, seen, thread => (seen, [thread])
  | bound + 1, seen, thread =>
    if seen.contains thread.place then (seen, [])
    else
      let next :=
        if thread.place = origin then (thread.place :: seen, [])
        else rounds (again step greedy origin bound) (thread.place :: seen) (step thread)
      (next.1, prefer greedy thread next.2)

/-- All ends of one or more rounds from a thread. -/
def oneOrMore (step : Thread → List Thread) (greedy : Bool) (bound : Nat) (thread : Thread) :
    List Thread :=
  (rounds (again step greedy thread.place bound) [] (step thread)).2

/-- All ends of at most a number of rounds from a thread. -/
def upTo (step : Thread → List Thread) (greedy : Bool) :
    Nat → List (Nat × Nat) → Thread → List (Nat × Nat) × List Thread
  | 0, seen, thread => (seen, [thread])
  | left + 1, seen, thread =>
    if seen.contains (left, thread.place) then (seen, [])
    else
      let next := rounds (upTo step greedy left) ((left, thread.place) :: seen) (step thread)
      (next.1, prefer greedy thread next.2)

/-- Apply a function a number of times. -/
def times {α : Type} (f : α → α) : Nat → α → α
  | 0, a => a
  | n + 1, a => times f n (f a)

/-- The threads that leave a pattern, from the threads that enter it. -/
def run (text : Array Char) : Pattern → List Thread → List Thread
  | empty, threads => threads
  | one set, threads =>
    threads.filterMap fun thread =>
      match text[thread.place]? with
      | some c => if set.has c then some { thread with place := thread.place + 1 } else none
      | none => none
  | assertion condition, threads =>
    threads.filter fun thread => condition.holds text thread.place
  | group index body, threads =>
    Thread.distinct <| threads.flatMap fun thread =>
      (body.run text [thread]).map fun done => done.close index thread.place
  | seq first second, threads => second.run text (first.run text threads)
  | alt first second, threads =>
    Thread.distinct <| threads.flatMap fun thread =>
      first.run text [thread] ++ second.run text [thread]
  | rep least most greedy body, threads =>
    let step (thread : Thread) := body.run text [thread]
    let bound := text.size + 1
    match most with
    | some most =>
      Thread.distinct <| (times (body.run text) least threads).flatMap fun thread =>
        (upTo step greedy (most - least) [] thread).2
    | none =>
      match least with
      | 0 =>
        Thread.distinct <| threads.flatMap fun thread =>
          prefer greedy thread (oneOrMore step greedy bound thread)
      | least + 1 =>
        Thread.distinct <| (times (body.run text) least threads).flatMap
          (oneOrMore step greedy bound)

/-- A match: where it begins, where it ends, and the groups that took part in it. -/
structure Match where
  span : Span
  groups : List (Nat × Span)
  deriving Repr, DecidableEq, Inhabited

/-- The preferred match that begins at a place. -/
def matchAt (pattern : Pattern) (text : Array Char) (place : Nat) : Option Match :=
  (pattern.run text [⟨place, []⟩]).head?.map fun thread => ⟨⟨place, thread.place⟩, thread.groups⟩

/-- The preferred match at the first of a number of consecutive places where there is any. -/
def matchWithin (pattern : Pattern) (text : Array Char) (start : Nat) : Nat → Option Match
  | 0 => none
  | count + 1 =>
    match pattern.matchAt text start with
    | some found => some found
    | none => pattern.matchWithin text (start + 1) count

/-- The leftmost match that begins at a place or after it. -/
def find? (pattern : Pattern) (text : Array Char) (start : Nat) : Option Match :=
  pattern.matchWithin text start (text.size + 1 - start)

/-- Whether a pattern matches anywhere in a text. -/
def matchesText (pattern : Pattern) (text : String) : Bool :=
  (pattern.find? text.toList.toArray 0).isSome

end Scrutiny.Pattern
