import DispatchStore.Json.Error

/-!
# Reading steps

A cursor is the text that is still to be read and the place where it starts. A step reads something
and moves the cursor, or fails. A failed step keeps the cursor too, because the record around it
still looks for its own end before it says where an error without a place is.
-/

namespace DispatchStore.Json

/-- What is left to read, and where it starts. -/
structure Cursor where
  /-- The characters not yet read. -/
  rest : List Char
  /-- The place of the first of them. -/
  position : Position

/-- The cursor at the start of a text. -/
def Cursor.start (s : String) : Cursor := ⟨s.toList, ⟨1, 0⟩⟩

/-- The outcome of a reading step. -/
inductive Step (α : Type) where
  /-- A value was read up to the cursor. -/
  | done (value : α) (next : Cursor)
  /-- Reading stopped at the cursor. -/
  | failed (error : Error) (next : Cursor)

namespace Step

variable {α β : Type}

/-- Goes on with the value that was read. -/
def andThen (s : Step α) (f : α → Cursor → Step β) : Step β :=
  match s with
  | done a c => f a c
  | failed e c => failed e c

/-- Changes the value that was read. -/
def map (f : α → β) (s : Step α) : Step β := s.andThen fun a c => done (f a) c

end Step

namespace Cursor

variable {α : Type}

/-- Fails with a place right at the cursor. -/
def failHere (c : Cursor) (fault : Fault) : Step α := .failed ⟨fault, some c.position⟩ c

/-- Fails with a place behind the next byte, or at the end of the text. -/
def failNext (c : Cursor) (fault : Fault) : Step α :=
  match c.rest with
  | [] => c.failHere fault
  | ch :: _ => .failed ⟨fault, some (c.position.pastByte ch)⟩ c

/-- Fails without a place. -/
def failUnplaced (c : Cursor) (fault : Fault) : Step α := .failed ⟨fault, none⟩ c

/-- The cursor behind the next character. -/
def skipOne (c : Cursor) : Cursor :=
  match c.rest with
  | [] => c
  | ch :: cs => ⟨cs, c.position.past ch⟩

end Cursor

/-- Whether `c` may stand between the parts of a JSON text. -/
def isSpace (c : Char) : Bool := c = ' ' || c = '\n' || c = '\t' || c = '\r'

/-- The cursor at the first character of `cs` that is no space. -/
def skipSpaceFrom (p : Position) : List Char → Cursor
  | [] => ⟨[], p⟩
  | c :: cs => if isSpace c then skipSpaceFrom (p.past c) cs else ⟨c :: cs, p⟩

/-- The cursor behind the white space that it stands before. -/
def Cursor.skipSpace (c : Cursor) : Cursor := skipSpaceFrom c.position c.rest

/-- Reads the given characters. -/
def keyword : List Char → Cursor → Step Unit
  | [], c => .done () c
  | k :: ks, c =>
    match c.rest with
    | [] => c.failHere .endInValue
    | ch :: _ => if ch = k then keyword ks c.skipOne else c.failNext .noKeyword

/-- Reads to the end of the text: nothing but white space may follow. -/
def atEnd {α : Type} (value : α) (c : Cursor) : Step α :=
  let c := c.skipSpace
  match c.rest with
  | [] => .done value c
  | _ :: _ => c.failNext .trailingCharacters

end DispatchStore.Json
