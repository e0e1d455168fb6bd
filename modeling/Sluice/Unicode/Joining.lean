import Sluice.Unicode.RunMap

/-
  How characters join their neighbours in a cursive script.
-/

namespace Sluice.Unicode

/-- The joining type of a character. -/
inductive Joining where
  | none
  | left
  | right
  | dual
  | transparent
  | causing
  deriving DecidableEq, Repr

def joiningText : String :=
  "ad 1:4 252 70:4 113 7:4 107 2d:4 1 1:4 1 2:4 1 2:4 1 1:4 48 b:4 1 1:4 3 1:3 1 4:2 1:3 1:2 " ++
    "1:3 1:2 5:3 4:2 d:3 1:5 7:3 1:2 2:3 15:4 e 2:3 1:4 3:2 1 3:2 10:3 12:2 26:3 1:2 2:3 9:2 " ++
    "1:3 1:2 1:3 1:2 2:3 2:2 1 1:2 7:4 2 6:4 2 2:4 1 4:4 2:2 a 3:3 2 1:3 f 1:4 1:2 1:4 3:3 5:2 " ++
    "4:3 1:2 9:3 1:2 1:3 1:2 1:3 1:2 2:3 1:2 1b:4 2 1:2 b:3 3:2 f:3 2:2 4:3 1:2 1:3 2:2 3:3 " ++
    "2:2 6:3 26 b:4 19 21:3 9:4 6 1:5 2 1:4 18 4:4 1 9:4 1 3:4 1 5:4 12 1:2 5:3 2:2 1:3 1:2 " ++
    "a:3 1:2 1:3 3:2 3:4 4 1:3 1 4:3 1 1:2 1:3 2:2 5 13:2 3:5 1:3 2 5:3 1:2 1:3 7 9:4 a:3 3:2 " ++
    "1 1:2 2:3 2:2 6:3 1:2 f:3 1 18:4 1 20:4 37 1:4 1 1:4 4 8:4 4 1:4 3 7:4 a 2:4 1d 1:4 3a " ++
    "1:4 4 4:4 8 1:4 14 2:4 1a 1:4 2 2:4 39 1:4 4 2:4 4 2:4 2 3:4 3 1:4 1e 2:4 3 1:4 b 2:4 39 " ++
    "1:4 4 5:4 1 2:4 4 1:4 14 2:4 16 6:4 1 1:4 3a 1:4 2 1:4 1 4:4 8 1:4 7 2:4 b 2:4 1e 1:4 3d " ++
    "1:4 c 1:4 32 1:4 3 1:4 37 1:4 1 3:4 5 3:4 1 4:4 7 2:4 b 2:4 1d 1:4 3a 1:4 2 1:4 6 1:4 5 " ++
    "2:4 14 2:4 1c 2:4 39 2:4 4 4:4 8 1:4 14 2:4 1d 1:4 48 1:4 7 3:4 1 1:4 5a 1:4 2 7:4 c 8:4 " ++
    "62 1:4 2 9:4 b 7:4 49 2:4 1b 1:4 1 1:4 1 1:4 37 e:4 1 5:4 1 2:4 5 b:4 1 24:4 9 1:4 66 4:4 " ++
    "1 6:4 1 2:4 2 2:4 19 2:4 4 3:4 10 4:4 d 1:4 2 2:4 6 1:4 f 1:4 2bf 3:4 3b2 3:4 1d 2:4 1e " ++
    "2:4 1e 2:4 40 2:4 1 7:4 8 1:4 2 b:4 9 1:4 29 1:3 2 1:5 3:4 1 1:4 10 59:3 c 2:4 22:3 1:4 " ++
    "1:3 75 3:4 4 2:4 9 1:4 6 3:4 db 2:4 2 1:4 3a 1:4 1 7:4 1 1:4 1 1:4 2 8:4 6 a:4 2 1:4 30 " ++
    "2e:4 2 c:4 14 4:4 30 1:4 1 5:4 1 1:4 5 1:4 28 9:4 c 2:4 20 4:4 2 2:4 1 3:4 38 1:4 1 2:4 3 " ++
    "1:4 1 3:4 3a 8:4 2 2:4 98 3:4 1 d:4 1 7:4 4 1:4 6 1:4 3 2:4 c6 40:4 20b 1:4 1 1:5 2:4 1a " ++
    "5:4 31 5:4 5 6:4 60 21:4 bfe 3:4 8d 1:4 60 20:4 22a 4:4 6b 2:4 75d4 4:4 1 a:4 20 2:4 50 " ++
    "2:4 110 1:4 3 1:4 4 1:4 19 2:4 5 1:4 13 32:3 1:1 51 2:4 1a 12:4 d 1:4 26 8:4 19 b:4 2e " ++
    "3:4 30 1:4 2 4:4 2 2:4 27 1:4 43 6:4 2 2:4 2 2:4 c 1:4 8 1:4 2f 1:4 33 1:4 1 3:4 2 2:4 5 " ++
    "2:4 1 1:4 2a 2:4 8 1:4 ee 1:4 2 1:4 4 1:4 4f30 1:4 2e1 10:4 10 10:4 cf 1:4 f9 3:4 201 1:4 " ++
    "e2 1:4 95 5:4 686 3:4 1 2:4 5 4:4 28 3:4 4 1:4 80 5:3 1:2 1 1:2 1 2:2 2 1:1 5:2 4:3 1:1 " ++
    "5:3 1:2 3:3 1:2 2 1:2 2:4 4 4:3 1:2 90 1:3 1:2 1:3 3:2 3:3 1:2 2:3 1:2 1:3 2:2 1:3 1:2 17 " ++
    "4:2 2:3 151 1:1 21:3 1:2 1:3 4:4 41 5:4 13d 2:4 15 1:2 2:3 1 2:3 32 6:4 30 3:3 1:2 11:3 1 " ++
    "b:4 3:3 1:2 1b 4:3 2:2 c:3 4:4 2a 1:3 1 2:3 3:2 1 1:3 2:2 2:3 1:2 2:3 1 1:3 2:2 1:3 4 1:2 " ++
    "1:3 1:1 35 1:4 36 f:4 29 1:4 2 2:4 a 3:4 31 4:4 2 2:4 7 1:4 3d 3:4 24 5:4 1 8:4 3e 1:4 c " ++
    "2:4 34 9:4 a 4:4 2 1:4 5f 3:4 2 1:4 1 2:4 6 1:4 2 1:4 9d 1:4 3 8:4 15 2:4 39 2:4 3 1:4 25 " ++
    "7:4 3 5:4 46 6:4 d 1:4 1 1:4 1 1:4 e 2:4 55 8:4 2 3:4 1 1:4 17 1:4 54 6:4 1 1:4 4 2:4 1 " ++
    "2:4 ee 4:4 6 2:4 1 2:4 1b 2:4 55 8:4 2 1:4 1 2:4 6a 1:4 1 1:4 2 6:4 1 1:4 65 1:4 1 1:4 2 " ++
    "4:4 1 5:4 103 9:4 1 2:4 100 2:4 1 1:4 4 1:4 90 4:4 2 2:4 4 1:4 20 a:4 28 6:4 2 4:4 8 1:4 " ++
    "9 6:4 2 3:4 2e d:4 1 2:4 c6 1:4 1 3:4 1 1:4 c9 7:4 1 6:4 1 1:4 52 16:4 2 7:4 1 2:4 1 2:4 " ++
    "7a 6:4 3 1:4 1 2:4 1 7:4 1 1:4 48 2:4 3 1:4 1 1:4 15b 2:4 b 2:4 34 5:4 5 1:4 1 1:4 17 1:4 " ++
    "14d5 11:4 6 f:4 2cc8 c:4 3 3:4 9c0 5:4 3b 7:4 418 1:4 3f 4:4 51 1:4 4cb8 2:4 1 4:4 125c " ++
    "2e:4 2 17:4 220 3:4 9 10:4 2 7:4 1e 4:4 94 3:4 7bb 37:4 4 32:4 8 1:4 e 1:4 16 5:4 1 f:4 " ++
    "550 7:4 1 11:4 2 7:4 1 2:4 1 5:4 64 1:4 a0 7:4 177 1:4 3d 4:4 1fc 4:4 fe 2:4 f3 1:4 2 1:4 " ++
    "7 2:4 5 1:4 1da 7:4 29 44:3 8:4 c16b5 1:4 1e 60:4 80 f0:4"

def joiningRuns : RunMap :=
  RunMap.ofText joiningText

/-- The joining type of a character. -/
def joining (c : Char) : Joining :=
  match joiningRuns.get c with
  | 1 => .left
  | 2 => .right
  | 3 => .dual
  | 4 => .transparent
  | 5 => .causing
  | _ => .none

end Sluice.Unicode
