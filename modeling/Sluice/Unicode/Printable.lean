import Sluice.Unicode.RunMap

/-
  Which characters show as themselves. Controls, formats, unassigned characters and all separators
  but the ASCII space do not; characters that extend a grapheme do not stand on their own.
-/

namespace Sluice.Unicode

def unprintableText : String :=
  "0 21:1 5e 22:1 c 1:1 2ca 2:1 6 4:1 7 1:1 1 1:1 14 1:1 18d 1:1 26 2:1 32 2:1 3 1:1 37 8:1 " ++
    "1b 4:1 6 11:1 16 1:1 c0 1:1 30 2:1 3b 2:1 65 e:1 3b 2:1 31 2:1 f 1:1 1c 2:1 1 1:1 b 5:1 " ++
    "20 7:1 4b 1:1 a1 1:1 8 2:1 2 2:1 16 1:1 7 1:1 1 3:1 4 2:1 9 2:1 2 2:1 4 8:1 1 4:1 2 1:1 5 " ++
    "2:1 19 2:1 3 1:1 6 4:1 2 2:1 16 1:1 7 1:1 2 1:1 2 1:1 2 2:1 1 1:1 5 4:1 2 2:1 3 3:1 1 7:1 " ++
    "4 1:1 1 7:1 11 a:1 3 1:1 9 1:1 3 1:1 16 1:1 7 1:1 2 1:1 5 2:1 a 1:1 3 1:1 3 2:1 1 f:1 4 " ++
    "2:1 c 7:1 7 1:1 3 1:1 8 2:1 2 2:1 16 1:1 7 1:1 2 1:1 5 2:1 9 2:1 2 2:1 3 7:1 3 4:1 2 1:1 " ++
    "5 2:1 12 a:1 2 1:1 6 3:1 3 1:1 4 3:1 2 1:1 1 1:1 2 3:1 2 3:1 3 3:1 c 4:1 5 3:1 3 1:1 4 " ++
    "2:1 1 6:1 1 e:1 15 5:1 d 1:1 3 1:1 17 1:1 10 2:1 9 1:1 3 1:1 4 7:1 2 1:1 3 1:1 2 2:1 4 " ++
    "2:1 a 7:1 16 1:1 3 1:1 17 1:1 a 1:1 5 2:1 9 1:1 3 1:1 4 7:1 2 5:1 3 1:1 4 2:1 a 1:1 3 c:1 " ++
    "d 1:1 3 1:1 33 1:1 3 1:1 6 4:1 10 2:1 1a 1:1 3 1:1 12 3:1 18 1:1 9 1:1 1 2:1 7 3:1 1 4:1 " ++
    "6 1:1 1 1:1 8 6:1 a 2:1 3 c:1 3a 4:1 1d 25:1 2 1:1 1 1:1 5 1:1 18 1:1 1 1:1 17 2:1 5 1:1 " ++
    "1 1:1 7 1:1 a 2:1 4 20:1 48 1:1 24 4:1 27 1:1 24 1:1 f 1:1 d 25:1 c6 1:1 1 5:1 1 2:1 179 " ++
    "1:1 4 2:1 7 1:1 1 1:1 4 2:1 29 1:1 4 2:1 21 1:1 4 2:1 7 1:1 1 1:1 4 2:1 f 1:1 39 1:1 4 " ++
    "2:1 43 2:1 20 3:1 1a 6:1 56 2:1 6 2:1 280 1:1 1c 3:1 59 7:1 16 9:1 18 9:1 14 c:1 d 1:1 3 " ++
    "1:1 2 c:1 5e 2:1 a 6:1 a 6:1 e 1:1 b 6:1 59 7:1 2b 5:1 46 a:1 1f 1:1 c 4:1 c 4:1 1 3:1 2a " ++
    "2:1 5 b:1 2c 4:1 1a 6:1 b 3:1 3e 2:1 41 1:1 1d 2:1 b 6:1 a 6:1 e 2:1 2e 2:1 c 14:1 4d 1:1 " ++
    "a6 8:1 3c 3:1 f 3:1 3e 5:1 2b 2:1 b 8:1 2b 5:1 216 2:1 6 2:1 26 2:1 6 2:1 8 1:1 1 1:1 1 " ++
    "1:1 1 1:1 1f 2:1 35 1:1 f 1:1 e 2:1 6 1:1 13 2:1 3 1:1 9 11:1 18 8:1 2f 11:1 2 2:1 1b 1:1 " ++
    "d 3:1 22 e:1 21 f:1 8c 4:1 29a 16:1 b 15:1 714 2:1 17e 5:1 2d 1:1 1 5:1 1 2:1 38 7:1 2 " ++
    "e:1 18 9:1 7 1:1 7 1:1 7 1:1 7 1:1 7 1:1 7 1:1 7 1:1 7 1:1 7e 22:1 1a 1:1 59 c:1 d6 1a:1 " ++
    "10 1:1 3f 1:1 56 2:1 67 5:1 2b 1:1 5e 1:1 56 9:1 30 1:1 726d 3:1 37 9:1 15c 14:1 b8 8:1 " ++
    "dd 14:1 3c 3:1 a 6:1 38 8:1 46 8:1 c 6:1 74 b:1 1e 3:1 4e 1:1 b 4:1 21 1:1 37 9:1 e 2:1 a " ++
    "2:1 67 18:1 1c a:1 6 2:1 6 2:1 6 9:1 7 1:1 7 1:1 3c 4:1 7e 2:1 a 6:1 2ba4 c:1 17 4:1 31 " ++
    "4:1 800 1900:1 16e 2:1 6a 26:1 7 c:1 5 5:1 1a 1:1 5 1:1 1 1:1 2 1:1 2 1:1 28a 20:1 2a 6:1 " ++
    "33 1:1 13 1:1 4 4:1 5 1:1 87 4:1 be 3:1 6 2:1 6 2:1 6 2:1 3 3:1 7 1:1 7 d:1 2 2:1 c 1:1 " ++
    "1a 1:1 13 1:1 2 1:1 f 2:1 e 22:1 7b 5:1 3 4:1 2d 3:1 58 1:1 d 3:1 1 2f:1 2e 82:1 1d 3:1 " ++
    "31 f:1 1c 4:1 24 9:1 1e 5:1 2b 5:1 1e 1:1 25 4:1 e 2a:1 9e 2:1 a 6:1 24 4:1 24 4:1 28 8:1 " ++
    "34 b:1 c 1:1 f 1:1 7 1:1 2 1:1 b 1:1 f 1:1 7 1:1 2 3:1 34 c:1 137 9:1 16 a:1 8 18:1 6 1:1 " ++
    "2a 1:1 9 45:1 6 2:1 1 1:1 2c 1:1 2 3:1 1 2:1 17 1:1 48 8:1 9 30:1 13 1:1 2 5:1 21 3:1 1b " ++
    "5:1 1b 26:1 38 4:1 14 2:1 32 1:1 2 5:1 8 1:1 3 1:1 1d 2:1 3 4:1 a 7:1 9 7:1 40 20:1 27 " ++
    "4:1 c 9:1 36 3:1 1d 2:1 1b 5:1 1a 7:1 4 c:1 7 50:1 49 37:1 33 d:1 33 7:1 2e 8:1 a 6:1 26 " ++
    "3:1 1d 8:1 2 d0:1 1f 1:1 2a 1:1 3 2:1 2 10:1 6 8:1 9 21:1 2e 8:1 2a 16:1 1a 26:1 1c 14:1 " ++
    "17 9:1 4e 4:1 24 9:1 3e 1:1 5 d:1 19 7:1 a 6:1 35 1:1 12 8:1 27 9:1 60 1:1 14 b:1 12 1:1 " ++
    "2f 3e:1 7 1:1 1 1:1 4 1:1 f 1:1 b 6:1 3b 5:1 a 6:1 4 1:1 8 2:1 2 2:1 16 1:1 7 1:1 2 1:1 5 " ++
    "1:1 a 2:1 2 2:1 3 2:1 1 6:1 1 5:1 7 2:1 7 3:1 5 b:1 a 1:1 1 2:1 1 1:1 26 1:1 a 1:1 1 2:1 " ++
    "1 1:1 4 1:1 a 1:1 2 8:1 2 1d:1 5c 1:1 5 1e:1 48 8:1 a a6:1 36 2:1 26 22:1 45 b:1 a 6:1 d " ++
    "13:1 3a 6:1 a 6:1 14 1c:1 1b 2:1 f 4:1 17 b9:1 3c 64:1 53 c:1 8 2:1 1 2:1 8 1:1 2 1:1 1e " ++
    "1:1 2 2:1 c 9:1 a 46:1 8 2:1 2e 2:1 b 1b:1 48 8:1 53 d:1 49 7:1 a 56:1 8 58:1 22 e:1 a " ++
    "6:1 9 1:1 2d 1:1 e a:1 1d 3:1 20 2:1 16 1:1 e 49:1 7 1:1 2 1:1 2c 3:1 1 1:1 2 1:1 9 8:1 a " ++
    "6:1 6 1:1 2 1:1 25 1:1 2 1:1 6 7:1 a 6:1 2c 4:1 a f6:1 19 7:1 11 1:1 29 3:1 1d 55:1 1 f:1 " ++
    "32 d:1 39b 66:1 6f 1:1 5 b:1 c4 a4c:1 63 d:1 430 10:1 16 a:1 f9b 5:1 247 1ab9:1 3a 6c6:1 " ++
    "239 7:1 1f 1:1 a 4:1 51 1:1 a 6:1 1e 2:1 6 a:1 46 a:1 a 1:1 7 1:1 15 5:1 13 1b0:1 3a c6:1 " ++
    "5b 5:1 19 2:1 19 2c:1 4b 4:1 39 7:1 11 40:1 5 b:1 7 9:1 1cd6 29:1 20 61:1 73 21fd:1 4 1:1 " ++
    "7 1:1 2 1:1 123 f:1 1 1d:1 3 2:1 1 e:1 4 8:1 18c 904:1 6b 5:1 d 3:1 9 7:1 a 2:1 4 f60:1 " ++
    "fd 3:1 1b4 6:1 17 f:1 11 f:1 2e 2:1 17 9:1 74 3c:1 f6 a:1 27 2:1 4a 8:1 70 15:1 46 7a:1 " ++
    "14 c:1 14 c:1 57 9:1 19 87:1 55 1:1 47 1:1 2 2:1 1 2:1 2 2:1 4 1:1 c 1:1 1 1:1 7 1:1 41 " ++
    "1:1 4 2:1 8 1:1 7 1:1 1c 1:1 4 1:1 5 1:1 1 3:1 7 1:1 154 2:1 124 2:1 2be f:1 5 1:1 f " ++
    "450:1 1f 6:1 6 d5:1 7 1:1 11 2:1 7 1:1 2 1:1 5 5:1 3e 21:1 1 70:1 2d 3:1 e 2:1 a 4:1 2 " ++
    "140:1 1f 11:1 3a 5:1 1 1d0:1 2a d6:1 2b 4:1 1 c0:1 1f 1:1 16 8:1 2 e0:1 7 1:1 4 1:1 2 1:1 " ++
    "f 1:1 c5 2:1 10 29:1 4c 4:1 a 4:1 2 311:1 44 4c:1 3d c2:1 4 1:1 1b 1:1 2 1:1 1 2:1 1 1:1 " ++
    "a 1:1 4 1:1 1 1:1 1 6:1 1 4:1 1 1:1 1 1:1 1 1:1 3 1:1 2 1:1 1 2:1 1 1:1 1 1:1 1 1:1 1 1:1 " ++
    "1 1:1 2 1:1 1 2:1 4 1:1 7 1:1 4 1:1 4 1:1 1 1:1 a 1:1 11 5:1 3 1:1 5 1:1 11 34:1 2 10e:1 " ++
    "2c 4:1 64 c:1 f 2:1 f 1:1 f 1:1 25 a:1 ae 38:1 1d d:1 2c 4:1 9 7:1 2 e:1 6 9a:1 3d9 3:1 " ++
    "11 3:1 d 3:1 da 6:1 c 4:1 1 f:1 c 4:1 38 8:1 a 6:1 28 8:1 1e 2:1 c 4:1 2 e:1 9 27:1 158 " ++
    "8:1 e 2:1 d 3:1 b 3:1 39 1:1 1 4:1 10 2:1 c 4:1 a 7:1 93 1:1 67 405:1 a6e0 20:1 111e 2:1 " ++
    "168e 2:1 1d31 f:1 26e 9a2:1 21e 5e2:1 134b 5:1 212a acc86:1 f0 2fe10:1"

def unprintableRuns : RunMap :=
  RunMap.ofText unprintableText

/-- Does a character show as itself? -/
def isPrintable (c : Char) : Bool :=
  if c.toNat < 128 then 32 ≤ c.toNat && c.toNat < 127 else !unprintableRuns.contains c

def graphemeExtendText : String :=
  "300 70:1 113 7:1 107 2d:1 1 1:1 1 2:1 1 2:1 1 1:1 48 b:1 30 15:1 10 1:1 65 7:1 2 6:1 2 " ++
    "2:1 1 4:1 23 1:1 1e 1b:1 5b b:1 3a 9:1 9 1:1 18 4:1 1 9:1 1 3:1 1 5:1 2b 3:1 3b 9:1 2a " ++
    "18:1 1 20:1 37 1:1 1 1:1 4 8:1 4 1:1 3 7:1 a 2:1 1d 1:1 3a 1:1 1 1:1 2 4:1 8 1:1 9 1:1 a " ++
    "2:1 1a 1:1 2 2:1 39 1:1 4 2:1 4 2:1 2 3:1 3 1:1 1e 2:1 3 1:1 b 2:1 39 1:1 4 5:1 1 2:1 4 " ++
    "1:1 14 2:1 16 6:1 1 1:1 3a 1:1 1 2:1 1 4:1 8 1:1 7 3:1 a 2:1 1e 1:1 3b 1:1 1 1:1 c 1:1 9 " ++
    "1:1 28 1:1 3 1:1 37 1:1 1 3:1 5 3:1 1 4:1 7 2:1 b 2:1 1d 1:1 3a 1:1 2 2:1 1 1:1 3 3:1 1 " ++
    "4:1 7 2:1 b 2:1 1c 2:1 39 2:1 1 1:1 2 4:1 8 1:1 9 1:1 a 2:1 1d 1:1 48 1:1 4 1:1 2 3:1 1 " ++
    "1:1 8 1:1 51 1:1 2 7:1 c 8:1 62 1:1 2 9:1 b 7:1 49 2:1 1b 1:1 1 1:1 1 1:1 37 e:1 1 5:1 1 " ++
    "2:1 5 b:1 1 24:1 9 1:1 66 4:1 1 6:1 1 2:1 2 2:1 19 2:1 4 3:1 10 4:1 d 1:1 2 2:1 6 1:1 f " ++
    "1:1 2bf 3:1 3b2 4:1 1c 3:1 1d 2:1 1e 2:1 40 2:1 1 7:1 8 1:1 2 b:1 9 1:1 2d 3:1 1 1:1 75 " ++
    "2:1 22 1:1 76 3:1 4 2:1 9 1:1 6 3:1 db 2:1 2 1:1 3a 1:1 1 7:1 1 1:1 1 1:1 2 8:1 6 a:1 2 " ++
    "1:1 30 2e:1 2 c:1 14 4:1 30 a:1 4 3:1 26 9:1 c 2:1 20 4:1 2 6:1 38 1:1 1 2:1 3 1:1 1 5:1 " ++
    "38 8:1 2 2:1 98 3:1 1 d:1 1 7:1 4 1:1 6 1:1 3 2:1 c6 40:1 20c 1:1 c3 21:1 bfe 3:1 8d 1:1 " ++
    "60 20:1 22a 6:1 69 2:1 75d4 4:1 1 a:1 20 2:1 50 2:1 110 1:1 3 1:1 4 1:1 19 2:1 5 1:1 97 " ++
    "2:1 1a 12:1 d 1:1 26 8:1 19 b:1 1 1:1 2c 3:1 30 1:1 2 4:1 2 2:1 2 1:1 24 1:1 43 6:1 2 2:1 " ++
    "2 2:1 c 1:1 8 1:1 2f 1:1 33 1:1 1 3:1 2 2:1 5 2:1 1 1:1 2a 2:1 8 1:1 ee 1:1 2 1:1 4 1:1 " ++
    "4f30 1:1 2e1 10:1 10 10:1 16e 2:1 25d 1:1 e2 1:1 95 5:1 686 3:1 1 2:1 5 4:1 28 3:1 4 1:1 " ++
    "a5 2:1 23d 4:1 41 5:1 13d 2:1 4d 6:1 46 b:1 31 4:1 7b 1:1 36 f:1 29 1:1 2 2:1 a 3:1 31 " ++
    "4:1 2 2:1 7 1:1 3d 3:1 24 5:1 1 8:1 3e 1:1 c 2:1 34 9:1 1 1:1 8 4:1 2 1:1 5f 3:1 2 4:1 6 " ++
    "1:1 2 1:1 9d 1:1 3 8:1 15 2:1 39 2:1 1 1:1 1 1:1 c 1:1 9 1:1 e 7:1 3 5:1 43 1:1 2 6:1 1 " ++
    "1:1 2 1:1 1 3:1 4 3:1 1 1:1 e 2:1 55 8:1 2 3:1 1 1:1 17 1:1 51 1:1 2 6:1 1 1:1 2 1:1 1 " ++
    "2:1 1 2:1 eb 1:1 2 4:1 6 2:1 1 2:1 1b 2:1 55 8:1 2 1:1 1 2:1 6a 1:1 1 1:1 2 8:1 65 1:1 1 " ++
    "1:1 2 4:1 1 5:1 103 9:1 1 2:1 f5 1:1 a 4:1 4 1:1 90 4:1 2 2:1 4 1:1 20 a:1 28 6:1 2 4:1 8 " ++
    "1:1 9 6:1 2 3:1 2e d:1 1 2:1 c6 1:1 1 3:1 1 1:1 c9 7:1 1 6:1 1 1:1 52 16:1 2 7:1 1 2:1 1 " ++
    "2:1 7a 6:1 3 1:1 1 2:1 1 7:1 1 1:1 48 2:1 3 1:1 1 1:1 15b 2:1 b 2:1 34 5:1 5 3:1 17 1:1 " ++
    "14e5 1:1 6 f:1 2cc8 c:1 3 3:1 9c0 5:1 3b 7:1 418 1:1 3f 4:1 51 1:1 b 2:1 4cab 2:1 1261 " ++
    "2e:1 2 17:1 21e 5:1 3 6:1 8 8:1 2 7:1 1e 4:1 94 3:1 7bb 37:1 4 32:1 8 1:1 e 1:1 16 5:1 1 " ++
    "f:1 550 7:1 1 11:1 2 7:1 1 2:1 1 5:1 64 1:1 a0 7:1 177 1:1 3d 4:1 1fc 4:1 fe 2:1 f3 1:1 2 " ++
    "1:1 7 2:1 5 1:1 1da 7:1 6d 7:1 c16d5 60:1 80 f0:1"

def graphemeExtendRuns : RunMap :=
  RunMap.ofText graphemeExtendText

/-- Does a character only extend the one before it? -/
def extendsGrapheme (c : Char) : Bool :=
  if c.toNat < 128 then false else graphemeExtendRuns.contains c

end Sluice.Unicode
