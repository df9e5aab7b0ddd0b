import RelayClient.Text

/-!
# Hangul syllables

A syllable has an initial consonant, a vowel and perhaps a final consonant, and its code point
follows from their places in the three orders.
-/
namespace RelayClient.Hangul

def initials : String := "ㄱㄲㄴㄷㄸㄹㅁㅂㅃㅅㅆㅇㅈㅉㅊㅋㅌㅍㅎ"

def vowels : String := "ㅏㅐㅑㅒㅓㅔㅕㅖㅗㅘㅙㅚㅛㅜㅝㅞㅟㅠㅡㅢㅣ"

def finals : String := "ㄱㄲㄳㄴㄵㄶㄷㄹㄺㄻㄼㄽㄾㄿㅀㅁㅂㅄㅅㅆㅇㅈㅊㅋㅌㅍㅎ"

/-- The syllable of an initial and a vowel by their places from zero and a final by its place from
one, zero standing for none. -/
def syllable (initial vowel final : Nat) : CodePoint :=
  CodePoint.ofNat (0xAC00 + 588 * initial + 28 * vowel + final)

example : syllable 18 0 4 = '한' := by decide

end RelayClient.Hangul
