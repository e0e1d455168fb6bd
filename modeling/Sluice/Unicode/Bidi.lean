import Sluice.Unicode.RunMap

/-
  The writing direction of characters.
-/

namespace Sluice.Unicode

/-- The bidirectional class of a character, as far as domain names tell them apart. -/
inductive BidiClass where
  | left
  | right
  | arabicLetter
  | arabicNumber
  | europeanNumber
  | europeanSeparator
  | commonSeparator
  | europeanTerminator
  | otherNeutral
  | boundaryNeutral
  | nonspacingMark
  /-- A class that no domain name label may hold. -/
  | excluded
  deriving DecidableEq, Repr

/-- Are the characters of a class written from right to left? -/
def BidiClass.isRightToLeft : BidiClass → Bool
  | right | arabicLetter | arabicNumber => true
  | _ => false

def bidiText : String :=
  "9:a 5 e:a 5 2:9 3:8 5:9 1:6 1:7 1:6 2:7 a:5 1:7 6:9 1a:1 6:9 1a:1 4:9 6:a 1 1a:a 1:7 1:9 " ++
    "4:8 4:9 1:1 2:9 1:a 2:9 2:8 2:5 1:9 1:1 3:9 1:5 1:1 5:9 17:1 1:9 1f:1 1:9 1c1:1 2:9 7:1 " ++
    "e:9 2:1 e:9 5:1 9:9 1:1 11:9 70:b 4:1 2:9 8:1 1:9 5:1 2:9 1:1 1:9 6e:1 1:9 8c:1 7:b 100:1 " ++
    "1:9 2:1 2:9 1:8 1:2 2d:b 1:2 1:b 1:2 2:b 1:2 2:b 1:2 1:b 38:2 6:4 2:9 1:3 2:8 1:3 1:7 1:3 " ++
    "2:9 b:b 30:3 15:b a:4 1:8 2:4 3:3 1:b 65:3 7:b 1:4 1:9 6:b 2:3 2:b 1:9 4:b 2:3 a:5 17:3 " ++
    "1:b 1e:3 1b:b 5b:3 b:b f:3 2b:2 9:b 2:2 4:9 3:2 1:b 18:2 4:b 1:2 9:b 1:2 3:b 1:2 5:b 2b:2 " ++
    "3:b 4:2 30:3 2:4 6:3 8:b 2a:3 18:b 1:4 20:b 37:1 1:b 1:1 1:b 4:1 8:b 4:1 1:b 3:1 7:b a:1 " ++
    "2:b 1d:1 1:b 3a:1 1:b 4:1 4:b 8:1 1:b 14:1 2:b e:1 2:8 7:1 1:8 2:1 1:b 2:1 2:b 39:1 1:b " ++
    "4:1 2:b 4:1 2:b 2:1 3:b 3:1 1:b 1e:1 2:b 3:1 1:b b:1 2:b 39:1 1:b 4:1 5:b 1:1 2:b 4:1 1:b " ++
    "14:1 2:b d:1 1:8 8:1 6:b 1:1 1:b 3a:1 1:b 2:1 1:b 1:1 4:b 8:1 1:b 7:1 2:b b:1 2:b 1e:1 " ++
    "1:b 3d:1 1:b c:1 1:b 25:1 6:9 1:8 1:9 5:1 1:b 3:1 1:b 37:1 1:b 1:1 3:b 5:1 3:b 1:1 4:b " ++
    "7:1 2:b b:1 2:b 14:1 7:9 2:1 1:b 3a:1 1:b f:1 2:b 14:1 2:b 1c:1 2:b 39:1 2:b 4:1 4:b 8:1 " ++
    "1:b 14:1 2:b 1d:1 1:b 48:1 1:b 7:1 3:b 1:1 1:b 5a:1 1:b 2:1 7:b 4:1 1:8 7:1 8:b 62:1 1:b " ++
    "2:1 9:b b:1 7:b 49:1 2:b 1b:1 1:b 1:1 1:b 1:1 1:b 4:9 33:1 e:b 1:1 5:b 1:1 2:b 5:1 b:b " ++
    "1:1 24:b 9:1 1:b 66:1 4:b 1:1 6:b 1:1 2:b 2:1 2:b 19:1 2:b 4:1 3:b 10:1 4:b d:1 1:b 2:1 " ++
    "2:b 6:1 1:b f:1 1:b 2bf:1 3:b 30:1 a:9 66:1 1:9 27f:1 1 1a:1 2:9 75:1 3:b 1d:1 2:b 1e:1 " ++
    "2:b 1e:1 2:b 40:1 2:b 1:1 7:b 8:1 1:b 2:1 b:b 7:1 1:8 1:1 1:b 12:1 a:9 6:1 b:9 3:b 1:a " ++
    "1:b 75:1 2:b 22:1 1:b 76:1 3:b 4:1 2:b 9:1 1:b 6:1 3:b 4:1 1:9 3:1 2:9 98:1 22:9 17:1 2:b " ++
    "2:1 1:b 3a:1 1:b 1:1 7:b 1:1 1:b 1:1 1:b 2:1 8:b 6:1 a:b 2:1 1:b 30:1 1f:b 31:1 4:b 30:1 " ++
    "1:b 1:1 5:b 1:1 1:b 5:1 1:b 28:1 9:b c:1 2:b 20:1 4:b 2:1 2:b 1:1 3:b 38:1 1:b 1:1 2:b " ++
    "3:1 1:b 1:1 3:b 3a:1 8:b 2:1 2:b 98:1 3:b 1:1 d:b 1:1 7:b 4:1 1:b 6:1 1:b 3:1 2:b c6:1 " ++
    "40:b 1bd:1 1:9 1:1 3:9 b:1 3:9 d:1 3:9 d:1 3:9 d:1 2:9 1:1 b 3:a 1:1 1:2 18:9 7 1:7 5:8 " ++
    "f:9 1:7 1a:9 1 6:a 4 6:a 1:5 3:1 6:5 2:6 3:9 1:1 a:5 2:6 3:9 11:1 30:8 21:b f:1 2:9 1:1 " ++
    "4:9 1:1 2:9 a:1 1:9 1:1 3:9 5:1 6:9 1:1 1:9 1:1 1:9 1:1 1:9 4:1 1:8 b:1 2:9 4:1 5:9 5:1 " ++
    "4:9 2:1 10:9 29:1 3:9 4:1 82:9 1:6 1:8 122:9 45:1 1a:9 1:1 91:9 19:1 b:9 15:1 28:9 14:5 " ++
    "4e:1 1c2:9 1:1 153:9 100:1 274:9 2:1 20:9 1:1 69:9 e5:1 6:9 4:1 3:b 7:1 7:9 7f:1 1:b 60:1 " ++
    "20:b 5e:9 22:1 1a:9 1:1 59:9 c:1 d6:9 1a:1 c:9 4:1 1 4:9 3:1 19:9 9:1 4:b 2:1 1:9 5:1 2:9 " ++
    "5:1 3:9 59:1 2:b 2:9 3:1 1:9 5a:1 1:9 c4:1 24:9 39:1 2:9 31:1 10:9 1c:1 3:9 32:1 f:9 c:1 " ++
    "4:9 a7:1 4:9 63:1 2:9 1f:1 1:9 19c0:1 40:9 5690:1 37:9 146:1 3:9 5f:1 4:b 1:9 a:b 2:9 " ++
    "1e:1 2:b 50:1 2:b e:1 22:9 66:1 1:9 79:1 1:b 3:1 1:b 4:1 1:b 19:1 2:b 1:1 4:9 1:b b:1 2:8 " ++
    "3a:1 4:9 4c:1 2:b 1a:1 12:b d:1 1:b 26:1 8:b 19:1 b:b 2e:1 3:b 30:1 1:b 2:1 4:b 2:1 2:b " ++
    "27:1 1:b 43:1 6:b 2:1 2:b 2:1 2:b c:1 1:b 8:1 1:b 2f:1 1:b 33:1 1:b 1:1 3:b 2:1 2:b 5:1 " ++
    "2:b 1:1 1:b 2a:1 2:b 8:1 1:b 73:1 2:9 79:1 1:b 2:1 1:b 4:1 1:b 4f2f:1 1:2 1:b a:2 1:6 " ++
    "26:2 1ee:3 12:9 7f:3 1:9 20:a d:3 3:9 10:b a:9 6:1 10:b 20:9 1:7 1:9 1:7 1:1 1:9 1:7 9:9 " ++
    "1:8 2:9 2:6 3:9 1:1 1:9 2:8 1:9 4:1 8f:3 1:a 1:1 2:9 3:8 5:9 1:6 1:7 1:6 2:7 a:5 1:7 6:9 " ++
    "1a:1 6:9 1a:1 b:9 7a:1 2:8 3:9 2:8 1:1 7:9 1:1 9:a 5:9 2:a 101:1 1:9 3e:1 4d:9 3:1 d:9 " ++
    "3:1 1:9 5c:1 1:b e2:1 1:b 1b:5 7a:1 5:b 485:1 11f:2 1:9 e1:2 3:b 1:2 2:b 5:2 4:b 28:2 3:b " ++
    "4:2 1:b a5:2 2:b 52:2 7:9 1c0:2 24:3 4:b 8:3 a:4 6:3 120:2 1f:4 2c:2 2:b 13:2 3d:3 3:b " ++
    "30:2 16:3 b:b 1f:3 12:2 4:b 7a:2 1:1 1:b 36:1 f:b b:1 14:9 a:1 1:b 2:1 2:b a:1 3:b 31:1 " ++
    "4:b 2:1 2:b 7:1 1:b 3d:1 3:b 24:1 5:b 1:1 8:b 3e:1 1:b c:1 2:b 34:1 9:b a:1 4:b 2:1 1:b " ++
    "5f:1 3:b 2:1 1:b 1:1 2:b 6:1 1:b 2:1 1:b 9d:1 1:b 3:1 8:b 15:1 2:b 39:1 2:b 3:1 1:b 25:1 " ++
    "7:b 3:1 5:b c3:1 8:b 2:1 3:b 1:1 1:b 17:1 1:b 54:1 6:b 1:1 1:b 4:1 2:b 1:1 2:b ee:1 4:b " ++
    "6:1 2:b 1:1 2:b 1b:1 2:b 55:1 8:b 2:1 1:b 1:1 2:b 1f:1 d:9 3e:1 1:b 1:1 1:b 2:1 6:b 1:1 " ++
    "1:b 65:1 3:b 2:1 4:b 1:1 5:b 103:1 9:b 1:1 2:b 100:1 2:b 1:1 1:b 4:1 1:b 90:1 4:b 2:1 2:b " ++
    "4:1 1:b 20:1 6:b 2:1 2:b 28:1 6:b 2:1 4:b 8:1 1:b 9:1 6:b 2:1 3:b 2e:1 d:b 1:1 2:b 196:1 " ++
    "7:b 1:1 6:b 54:1 16:b 2:1 7:b 1:1 2:b 1:1 2:b 7a:1 6:b 3:1 1:b 1:1 2:b 1:1 7:b 1:1 1:b " ++
    "48:1 2:b 3:1 1:b 1:1 1:b 15b:1 2:b b:1 2:b 34:1 5:b 5:1 1:b 1:1 1:b 92:1 8:9 4:8 11:9 " ++
    "144e:1 1:b 6:1 f:b 369a:1 5:b 3b:1 7:b 418:1 1:b 3f:1 4:b 4f:1 1:9 1:1 1:b 4cb8:1 2:b 1:1 " ++
    "4:a 125c:1 2e:b 2:1 17:b 220:1 3:b 9:1 8:a 8:b 2:1 7:b 1e:1 4:b 3b:1 2:9 15:1 42:9 3:b " ++
    "1:9 ba:1 57:9 384:1 1:9 39:1 1:9 39:1 1:9 39:1 1:9 39:1 1:9 a:1 32:5 200:1 37:b 4:1 32:b " ++
    "8:1 1:b e:1 1:b 16:1 5:b 1:1 f:b 550:1 7:b 1:1 11:b 2:1 7:b 1:1 2:b 1:1 5:b 64:1 1:b a0:1 " ++
    "7:b 177:1 1:b 3d:1 4:b f:1 1:8 1ec:1 4:b 310:1 d0:2 7:b 6d:2 7:b 325:2 50:3 40:2 50:3 " ++
    "b0:2 f0:3 2:9 e:3 100:2 2c:9 4:1 64:9 c:1 f:9 2:1 f:9 1:1 f:9 1:1 25:9 a:1 b:5 5:9 1f:1 " ++
    "1:9 3a:1 6:9 3d:1 1:9 b2:1 6:9 9a:1 3d8:9 4:1 11:9 3:1 d:9 3:1 77:9 4:1 5f:9 6:1 c:9 4:1 " ++
    "1:9 f:1 c:9 4:1 38:9 8:1 a:9 6:1 28:9 8:1 1e:9 2:1 2:9 4e:1 154:9 c:1 e:9 2:1 d:9 3:1 9:9 " ++
    "7:1 2e:9 1:1 7:9 8:1 e:9 4:1 9:9 7:1 9:9 7:1 93:9 1:1 37:9 25:1 a:5 404:1 2:a fffe:1 2:a " ++
    "fffe:1 2:a fffe:1 2:a fffe:1 2:a fffe:1 2:a fffe:1 2:a fffe:1 2:a fffe:1 2:a fffe:1 2:a " ++
    "fffe:1 2:a fffe:1 2:a fffe:1 102:a f0:b e10:a effe:1 2:a fffe:1 2:a fffe:1 2:a 0:1"

def bidiRuns : RunMap :=
  RunMap.ofText bidiText

/-- The bidirectional class of a character. -/
def bidiClass (c : Char) : BidiClass :=
  match bidiRuns.get c with
  | 1 => .left
  | 2 => .right
  | 3 => .arabicLetter
  | 4 => .arabicNumber
  | 5 => .europeanNumber
  | 6 => .europeanSeparator
  | 7 => .commonSeparator
  | 8 => .europeanTerminator
  | 9 => .otherNeutral
  | 10 => .boundaryNeutral
  | 11 => .nonspacingMark
  | _ => .excluded

end Sluice.Unicode
