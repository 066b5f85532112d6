/-
This file holds what a program asks of the files around it.
-/

import MiniPascal.Text.Quoted

namespace MiniPascal

/-- What stands in the way of a path. -/
inductive Obstacle where
  | notFound
  | denied
  | exists
  | notDirectory
  | isDirectory
  | nameTooLong
deriving DecidableEq, Repr

def Obstacle.message : Obstacle → String
  | .notFound => "[Errno 2] No such file or directory"
  | .denied => "[Errno 13] Permission denied"
  | .exists => "[Errno 17] File exists"
  | .notDirectory => "[Errno 20] Not a directory"
  | .isDirectory => "[Errno 21] Is a directory"
  | .nameTooLong => "[Errno 36] File name too long"

/-- A file is refused where its path, or the path of a directory above it, meets an obstacle. A
path that holds a null character is none. -/
inductive Refusal where
  | blocked (obstacle : Obstacle) (path : String)
  | nullCharacter
deriving DecidableEq, Repr

def Refusal.message : Refusal → String
  | .blocked obstacle path => obstacle.message ++ ": " ++ Text.quoted path
  | .nullCharacter => "embedded null byte"

/-- What a file is written for. The directories above a drawing are made for it. -/
inductive Purpose where
  | dump
  | drawing
deriving DecidableEq, Repr

structure WrittenFile where
  purpose : Purpose
  path : String
  content : String
deriving DecidableEq, Repr

/-- The surroundings tell, after some files have been written, whether another one is refused. -/
structure Surroundings where
  refusal? : List WrittenFile → Purpose → String → Option Refusal

/-- Surroundings in which every file can be written. -/
def Surroundings.permissive : Surroundings := ⟨fun _ _ _ => none⟩

end MiniPascal
