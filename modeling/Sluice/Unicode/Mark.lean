import Sluice.Unicode.RunMap

/-
  Combining marks: the characters of general category M, and canonical combining classes.
-/

namespace Sluice.Unicode

def markText : String :=
  "300 70:1 113 7:1 107 2d:1 1 1:1 1 2:1 1 2:1 1 1:1 48 b:1 30 15:1 10 1:1 65 7:1 2 6:1 2 " ++
    "2:1 1 4:1 23 1:1 1e 1b:1 5b b:1 3a 9:1 9 1:1 18 4:1 1 9:1 1 3:1 1 5:1 2b 3:1 3b 9:1 2a " ++
    "18:1 1 21:1 36 3:1 1 12:1 1 7:1 a 2:1 1d 3:1 38 1:1 1 7:1 2 2:1 2 3:1 9 1:1 a 2:1 1a 1:1 " ++
    "2 3:1 38 1:1 1 5:1 4 2:1 2 3:1 3 1:1 1e 2:1 3 1:1 b 3:1 38 1:1 1 8:1 1 3:1 1 3:1 14 2:1 " ++
    "16 6:1 1 3:1 38 1:1 1 7:1 2 2:1 2 3:1 7 3:1 a 2:1 1e 1:1 3b 5:1 3 3:1 1 4:1 9 1:1 28 5:1 " ++
    "37 1:1 1 7:1 1 3:1 1 4:1 7 2:1 b 2:1 1d 3:1 38 1:1 1 7:1 1 3:1 1 4:1 7 2:1 b 2:1 f 1:1 c " ++
    "4:1 37 2:1 1 7:1 1 3:1 1 4:1 9 1:1 a 2:1 1d 3:1 46 1:1 4 6:1 1 1:1 1 8:1 12 2:1 3d 1:1 2 " ++
    "7:1 c 8:1 62 1:1 2 9:1 b 7:1 49 2:1 1b 1:1 1 1:1 1 1:1 4 2:1 31 14:1 1 2:1 5 b:1 1 24:1 9 " ++
    "1:1 64 14:1 17 4:1 4 3:1 1 3:1 2 7:1 3 4:1 d c:1 1 1:1 a 4:1 2bf 3:1 3b2 4:1 1c 3:1 1d " ++
    "2:1 1e 2:1 40 20:1 9 1:1 2d 3:1 1 1:1 75 2:1 22 1:1 76 c:1 4 c:1 db 5:1 39 a:1 1 1d:1 2 " ++
    "1:1 30 2e:1 2 c:1 14 5:1 2f 11:1 26 9:1 c 3:1 1e d:1 38 e:1 30 14:1 98 3:1 1 15:1 4 1:1 6 " ++
    "1:1 2 3:1 c6 40:1 2d0 21:1 bfe 3:1 8d 1:1 60 20:1 22a 6:1 69 2:1 75d4 4:1 1 a:1 20 2:1 50 " ++
    "2:1 110 1:1 3 1:1 4 1:1 17 5:1 4 1:1 53 2:1 32 12:1 1a 12:1 d 1:1 26 8:1 19 d:1 2c 4:1 2f " ++
    "e:1 24 1:1 43 e:1 c 1:1 8 2:1 2d 3:1 32 1:1 1 3:1 2 2:1 5 2:1 1 1:1 29 5:1 5 2:1 ec 8:1 1 " ++
    "2:1 4f30 1:1 2e1 10:1 10 10:1 3cd 1:1 e2 1:1 95 5:1 686 3:1 1 2:1 5 4:1 28 3:1 4 1:1 a5 " ++
    "2:1 23d 4:1 41 5:1 13d 2:1 4d 6:1 46 b:1 31 4:1 7a 3:1 35 f:1 29 1:1 2 2:1 a 4:1 2d b:1 7 " ++
    "1:1 3d 3:1 24 e:1 10 2:1 2c 1:1 c 3:1 30 e:1 8 4:1 1 2:1 5c c:1 6 1:1 2 1:1 9d c:1 15 4:1 " ++
    "37 2:1 1 7:1 2 2:1 2 3:1 9 1:1 a 2:1 2 7:1 3 5:1 43 9:1 1 1:1 2 1:1 1 4:1 1 5:1 1 1:1 e " ++
    "2:1 52 12:1 17 1:1 51 14:1 eb 7:1 2 9:1 1b 2:1 52 11:1 6a d:1 65 f:1 100 f:1 f5 6:1 1 2:1 " ++
    "2 4:1 1 1:1 1 2:1 8d 7:1 2 7:1 3 1:1 1c a:1 28 7:1 1 4:1 8 1:1 9 b:1 2e 10:1 c6 8:1 c7 " ++
    "8:1 1 8:1 52 16:1 1 e:1 7a 6:1 3 1:1 1 2:1 1 7:1 1 1:1 42 5:1 1 2:1 1 5:1 15b 4:1 9 2:1 1 " ++
    "1:1 30 7:1 3 5:1 17 1:1 14e5 1:1 6 f:1 2cc8 12:1 9c0 5:1 3b 7:1 418 1:1 1 37:1 7 4:1 51 " ++
    "1:1 b 2:1 4cab 2:1 1261 2e:1 2 17:1 21e 5:1 3 6:1 8 8:1 2 7:1 1e 4:1 94 3:1 7bb 37:1 4 " ++
    "32:1 8 1:1 e 1:1 16 5:1 1 f:1 550 7:1 1 11:1 2 7:1 1 2:1 1 5:1 64 1:1 a0 7:1 177 1:1 3d " ++
    "4:1 1fc 4:1 fe 2:1 f3 1:1 2 1:1 7 2:1 5 1:1 1da 7:1 6d 7:1 c17b5 f0:1"

def markRuns : RunMap :=
  RunMap.ofText markText

/-- Is this a combining mark? -/
def isMark (c : Char) : Bool :=
  markRuns.contains c

def combiningClassText : String :=
  "300 15:e6 1:e8 4:dc 1:e8 1:d8 5:dc 2:ca 4:dc 2:ca b:dc 5:1 4:dc 8:e6 1:f0 1:e6 3:dc 3:e6 " ++
    "2:dc 1 3:e6 4:dc 1:e6 1:e8 2:dc 1:e6 1:e9 2:ea 1:e9 2:ea 1:e9 d:e6 113 5:e6 109 1:dc 4:e6 " ++
    "1:dc 3:e6 1:de 1:dc 6:e6 6:dc 2:e6 1:dc 2:e6 1:de 1:e4 1:e6 1:a 1:b 1:c 1:d 1:e 1:f 1:10 " ++
    "1:11 1:12 2:13 1:14 1:15 1:16 1 1:17 1 1:18 1:19 1 1:e6 1:dc 1 1:12 48 8:e6 1:1e 1:1f " ++
    "1:20 30 1:1b 1:1c 1:1d 1:1e 1:1f 1:20 1:21 1:22 2:e6 2:dc 5:e6 1:dc 2:e6 1:dc 10 1:23 65 " ++
    "7:e6 2 4:e6 1:dc 1:e6 2 2:e6 1 1:dc 2:e6 1:dc 23 1:24 1e 1:e6 1:dc 2:e6 1:dc 2:e6 3:dc " ++
    "1:e6 2:dc 1:e6 1:dc 3:e6 1:dc 1:e6 1:dc 1:e6 1:dc 1:e6 1:dc 2:e6 a0 7:e6 1:dc 1:e6 9 1:dc " ++
    "18 4:e6 1 9:e6 1 3:e6 1 5:e6 2b 3:dc 3c 1:e6 3:dc 4:e6 2a 5:e6 5:dc e:e6 1 1:dc 2:e6 1:dc " ++
    "2:e6 1:dc 3:e6 3:dc 1:1b 1:1c 1:1d 3:e6 1:dc 2:e6 2:dc 5:e6 3c 1:7 10 1:9 3 1:e6 1:dc " ++
    "2:e6 67 1:7 10 1:9 30 1:e6 3d 1:7 10 1:9 6e 1:7 10 1:9 6e 1:7 10 1:9 7f 1:9 6e 1:7 10 1:9 " ++
    "7 1:54 1:5b 65 1:7 10 1:9 6d 2:9 10 1:9 7c 1:9 6d 2:67 1:9 d 4:6b 6c 2:76 1:9 d 4:7a 4c " ++
    "2:dc 1b 1:dc 1 1:dc 1 1:d8 37 1:81 1:82 1 1:84 5 4:82 2 1:82 1 2:e6 1:9 1 2:e6 3e 1:dc 70 " ++
    "1:7 1 2:9 52 1:dc 2cf 3:e6 3b4 2:9 1e 1:9 9d 1:9 a 1:e6 cb 1:e4 8f 1:de 1:e6 1:dc db 1:e6 " ++
    "1:dc 47 1:9 14 8:e6 2 1:dc 30 5:e6 6:dc 2:e6 1:dc 1 2:dc 2:e6 2:dc 5:e6 1:dc 4:e6 65 1:7 " ++
    "f 1:9 26 1:e6 1:dc 7:e6 36 2:9 3a 1:7 b 2:9 43 1:7 98 3:e6 1 1:1 5:dc 2:e6 4:dc 1:e6 1 " ++
    "7:1 4 1:dc 6 1:e6 3 2:e6 c6 2:e6 1:dc 7:e6 1:dc 2:e6 1:ea 1:d6 1:dc 1:ca 25:e6 1:e8 2:e4 " ++
    "1:dc 1:da 1:e6 1:e9 1:dc 1:e6 1:dc 2d0 2:e6 2:1 4:e6 3:1 2:e6 4 1:e6 3 2:1 1:e6 1:dc 1:e6 " ++
    "2:1 4:dc 1:e6 bfe 3:e6 8d 1:9 60 20:e6 22a 1:da 1:e4 1:e8 1:de 2:e0 69 2:8 75d4 1:e6 4 " ++
    "a:e6 20 2:e6 50 2:e6 114 1:9 25 1:9 97 1:9 1b 12:e6 39 3:dc 25 1:9 5f 1:7 c 1:9 ef 1:e6 1 " ++
    "2:e6 1:dc 2 2:e6 5 2:e6 1 1:e6 34 1:9 f6 1:9 4f30 1:1a 301 7:e6 7:dc 2:e6 3cd 1:dc e2 " ++
    "1:dc 95 5:e6 692 1:dc 1 1:e6 28 1:e6 1:1 1:dc 4 1:9 a5 1:e6 1:dc 23d 4:e6 183 2:e6 50 " ++
    "3:dc 46 2:dc 3:e6 1:dc 1:e6 4:dc 31 1:e6 1:dc 1:e6 1:dc c0 1:9 29 1:9 e 1:9 39 1:9 1:7 45 " ++
    "3:e6 30 2:9 3e 1:7 4c 1:9 9 1:7 6a 1:9 1:7 b2 1:7 1:9 50 2:7 10 1:9 18 7:e6 3 5:e6 cd 1:9 " ++
    "3 1:7 17 1:e6 63 1:9 1:7 fb 1:9 1:7 7e 1:9 76 1:9 1:7 73 1:9 10d 1:9 1:7 102 2:9 4 1:7 9c " ++
    "1:9 53 1:9 12 1:9 51 1:9 1a5 1:9 102 1:7 1 2:9 51 1:9 1a9 2:9 4bad 5:1 3b 7:e6 4b9 2:6 " ++
    "4cac 1:1 14c6 2:d8 3:1 3 1:e2 5:d8 8 8:dc 2 5:e6 2:dc 1e 4:e6 94 3:e6 dbb 7:e6 1 11:e6 2 " ++
    "7:e6 1 2:e6 1 5:e6 64 1:e6 a0 7:e6 177 1:e6 3d 4:e6 1fc 2:e8 1:dc 1:e6 3e0 7:dc 6d 6:e6 " ++
    "1:7 f16b5 0"

def combiningClassRuns : RunMap :=
  RunMap.ofText combiningClassText

/-- The canonical combining class; zero for a character that starts a cluster. -/
def combiningClass (c : Char) : Nat :=
  combiningClassRuns.get c

/-- A virama joins what stands around it. -/
def isVirama (c : Char) : Bool :=
  combiningClass c == 9

end Sluice.Unicode
