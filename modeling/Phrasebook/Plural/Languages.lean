import Phrasebook.Plural.Rule

/-! The plural rules of the Common Locale Data Repository, each set named for one of the languages
that have it.  The categories of a set are tried in alphabetical order. -/

namespace Phrasebook.Plural.Rules

open Term

def english : Rules := [
  (.one, [[i.eq 1, v.eq 0]])]

def italian : Rules := [
  (.many, [
    [e.eq 0, i.ne 0, (i.mod 1000000).eq 0, v.eq 0],
    [e.isNotIn [(0, 5)]]]),
  (.one, [[i.eq 1, v.eq 0]])]

def turkish : Rules := [
  (.one, [[n.eq 1]])]

def hindi : Rules := [
  (.one, [
    [i.eq 0],
    [n.eq 1]])]

def arabic : Rules := [
  (.few, [[(n.mod 100).isIn [(3, 10)]]]),
  (.many, [[(n.mod 100).isIn [(11, 99)]]]),
  (.one, [[n.eq 1]]),
  (.two, [[n.eq 2]]),
  (.zero, [[n.eq 0]])]

def belarusian : Rules := [
  (.few, [[(n.mod 10).isIn [(2, 4)], (n.mod 100).isNotIn [(12, 14)]]]),
  (.many, [
    [(n.mod 10).eq 0],
    [(n.mod 10).isIn [(5, 9)]],
    [(n.mod 100).isIn [(11, 14)]]]),
  (.one, [[(n.mod 10).eq 1, (n.mod 100).ne 11]])]

def colognian : Rules := [
  (.one, [[n.eq 1]]),
  (.zero, [[n.eq 0]])]

def breton : Rules := [
  (.few, [
    [(n.mod 10).isIn [(3, 4), (9, 9)], (n.mod 100).isNotIn [(10, 19), (70, 79), (90, 99)]]]),
  (.many, [[n.ne 0, (n.mod 1000000).eq 0]]),
  (.one, [[(n.mod 10).eq 1, (n.mod 100).isNotIn [(11, 11), (71, 71), (91, 91)]]]),
  (.two, [[(n.mod 10).eq 2, (n.mod 100).isNotIn [(12, 12), (72, 72), (92, 92)]]])]

def croatian : Rules := [
  (.few, [
    [v.eq 0, (i.mod 10).isIn [(2, 4)], (i.mod 100).isNotIn [(12, 14)]],
    [(f.mod 10).isIn [(2, 4)], (f.mod 100).isNotIn [(12, 14)]]]),
  (.one, [
    [v.eq 0, (i.mod 10).eq 1, (i.mod 100).ne 11],
    [(f.mod 10).eq 1, (f.mod 100).ne 11]])]

def filipino : Rules := [
  (.one, [
    [v.eq 0, i.isIn [(1, 1), (2, 2), (3, 3)]],
    [v.eq 0, (i.mod 10).isNotIn [(4, 4), (6, 6), (9, 9)]],
    [v.ne 0, (f.mod 10).isNotIn [(4, 4), (6, 6), (9, 9)]]])]

def japanese : Rules := []

def czech : Rules := [
  (.few, [[i.isIn [(2, 4)], v.eq 0]]),
  (.many, [[v.ne 0]]),
  (.one, [[i.eq 1, v.eq 0]])]

def welsh : Rules := [
  (.few, [[n.eq 3]]),
  (.many, [[n.eq 6]]),
  (.one, [[n.eq 1]]),
  (.two, [[n.eq 2]]),
  (.zero, [[n.eq 0]])]

def danish : Rules := [
  (.one, [
    [n.eq 1],
    [t.ne 0, i.isIn [(0, 0), (1, 1)]]])]

def sorbian : Rules := [
  (.few, [
    [v.eq 0, (i.mod 100).isIn [(3, 4)]],
    [(f.mod 100).isIn [(3, 4)]]]),
  (.one, [
    [v.eq 0, (i.mod 100).eq 1],
    [(f.mod 100).eq 1]]),
  (.two, [
    [v.eq 0, (i.mod 100).eq 2],
    [(f.mod 100).eq 2]])]

def spanish : Rules := [
  (.many, [
    [e.eq 0, i.ne 0, (i.mod 1000000).eq 0, v.eq 0],
    [e.isNotIn [(0, 5)]]]),
  (.one, [[n.eq 1]])]

def french : Rules := [
  (.many, [
    [e.eq 0, i.ne 0, (i.mod 1000000).eq 0, v.eq 0],
    [e.isNotIn [(0, 5)]]]),
  (.one, [[i.isIn [(0, 0), (1, 1)]]])]

def irish : Rules := [
  (.few, [[n.isIn [(3, 6)]]]),
  (.many, [[n.isIn [(7, 10)]]]),
  (.one, [[n.eq 1]]),
  (.two, [[n.eq 2]])]

def gaelic : Rules := [
  (.few, [[n.isIn [(3, 10), (13, 19)]]]),
  (.one, [[n.isIn [(1, 1), (11, 11)]]]),
  (.two, [[n.isIn [(2, 2), (12, 12)]]])]

def manx : Rules := [
  (.few, [[v.eq 0, (i.mod 100).isIn [(0, 0), (20, 20), (40, 40), (60, 60), (80, 80)]]]),
  (.many, [[v.ne 0]]),
  (.one, [[v.eq 0, (i.mod 10).eq 1]]),
  (.two, [[v.eq 0, (i.mod 10).eq 2]])]

def hebrew : Rules := [
  (.one, [
    [i.eq 1, v.eq 0],
    [i.eq 0, v.ne 0]]),
  (.two, [[i.eq 2, v.eq 0]])]

def icelandic : Rules := [
  (.one, [
    [t.eq 0, (i.mod 10).eq 1, (i.mod 100).ne 11],
    [(t.mod 10).eq 1, (t.mod 100).ne 11]])]

def cornish : Rules := [
  (.few, [[(n.mod 100).isIn [(3, 3), (23, 23), (43, 43), (63, 63), (83, 83)]]]),
  (.many, [[n.ne 1, (n.mod 100).isIn [(1, 1), (21, 21), (41, 41), (61, 61), (81, 81)]]]),
  (.one, [[n.eq 1]]),
  (.two, [
    [(n.mod 100).isIn [(2, 2), (22, 22), (42, 42), (62, 62), (82, 82)]],
    [(n.mod 1000).eq 0,
     (n.mod 100000).isIn [(1000, 20000), (40000, 40000), (60000, 60000), (80000, 80000)]],
    [n.ne 0, (n.mod 1000000).eq 100000]]),
  (.zero, [[n.eq 0]])]

def langi : Rules := [
  (.one, [[i.isIn [(0, 0), (1, 1)], n.ne 0]]),
  (.zero, [[n.eq 0]])]

def lithuanian : Rules := [
  (.few, [[(n.mod 10).isIn [(2, 9)], (n.mod 100).isNotIn [(11, 19)]]]),
  (.many, [[f.ne 0]]),
  (.one, [[(n.mod 10).eq 1, (n.mod 100).isNotIn [(11, 19)]]])]

def latvian : Rules := [
  (.one, [
    [(n.mod 10).eq 1, (n.mod 100).ne 11],
    [v.eq 2, (f.mod 10).eq 1, (f.mod 100).ne 11],
    [v.ne 2, (f.mod 10).eq 1]]),
  (.zero, [
    [(n.mod 10).eq 0],
    [(n.mod 100).isIn [(11, 19)]],
    [v.eq 2, (f.mod 100).isIn [(11, 19)]]])]

def macedonian : Rules := [
  (.one, [
    [v.eq 0, (i.mod 10).eq 1, (i.mod 100).ne 11],
    [(f.mod 10).eq 1, (f.mod 100).ne 11]])]

def romanian : Rules := [
  (.few, [
    [v.ne 0],
    [n.eq 0],
    [n.ne 1, (n.mod 100).isIn [(1, 19)]]]),
  (.one, [[i.eq 1, v.eq 0]])]

def maltese : Rules := [
  (.few, [
    [n.eq 0],
    [(n.mod 100).isIn [(3, 10)]]]),
  (.many, [[(n.mod 100).isIn [(11, 19)]]]),
  (.one, [[n.eq 1]]),
  (.two, [[n.eq 2]])]

def sami : Rules := [
  (.one, [[n.eq 1]]),
  (.two, [[n.eq 2]])]

def punjabi : Rules := [
  (.one, [[n.isIn [(0, 1)]]])]

def polish : Rules := [
  (.few, [[v.eq 0, (i.mod 10).isIn [(2, 4)], (i.mod 100).isNotIn [(12, 14)]]]),
  (.many, [
    [v.eq 0, i.ne 1, (i.mod 10).isIn [(0, 1)]],
    [v.eq 0, (i.mod 10).isIn [(5, 9)]],
    [v.eq 0, (i.mod 100).isIn [(12, 14)]]]),
  (.one, [[i.eq 1, v.eq 0]])]

def portuguese : Rules := [
  (.many, [
    [e.eq 0, i.ne 0, (i.mod 1000000).eq 0, v.eq 0],
    [e.isNotIn [(0, 5)]]]),
  (.one, [[i.isIn [(0, 1)]]])]

def russian : Rules := [
  (.few, [[v.eq 0, (i.mod 10).isIn [(2, 4)], (i.mod 100).isNotIn [(12, 14)]]]),
  (.many, [
    [v.eq 0, (i.mod 10).eq 0],
    [v.eq 0, (i.mod 10).isIn [(5, 9)]],
    [v.eq 0, (i.mod 100).isIn [(11, 14)]]]),
  (.one, [[v.eq 0, (i.mod 10).eq 1, (i.mod 100).ne 11]])]

def tachelhit : Rules := [
  (.few, [[n.isIn [(2, 10)]]]),
  (.one, [
    [i.eq 0],
    [n.eq 1]])]

def sinhala : Rules := [
  (.one, [
    [n.isIn [(0, 0), (1, 1)]],
    [i.eq 0, f.eq 1]])]

def slovenian : Rules := [
  (.few, [
    [v.eq 0, (i.mod 100).isIn [(3, 4)]],
    [v.ne 0]]),
  (.one, [[v.eq 0, (i.mod 100).eq 1]]),
  (.two, [[v.eq 0, (i.mod 100).eq 2]])]

def tamazight : Rules := [
  (.one, [
    [n.isIn [(0, 1)]],
    [n.isIn [(11, 99)]]])]

end Phrasebook.Plural.Rules
