import Abacus.Coding.Lzma

/-!
# Words

The words that packed data can refer to without having them, ordered by length. They
stand here packed, with six bits in each character. A word is used as it is, or in one of
many forms: with some bytes left out, with capital letters, and with a text before or
after it.

* `Words.word?`: a word of some length.
* `Form.all`: all forms.
* `Form.apply`: a word in some form.
-/

namespace Abacus.Coding.Brotli

namespace Words

/-- The digit that a character is: capital letters, small letters, digits, and two signs. -/
def digit (c : Char) : Nat :=
  if c = '+' then 62
  else if c = '/' then 63
  else if c.toNat < 0x40 then c.toNat + 4
  else if c.toNat < 0x60 then c.toNat - 0x41
  else c.toNat - 0x47

/-- The bytes of digits: three bytes in four digits. -/
def unpackDigits (out : ByteArray) : List Char → ByteArray
  | a :: b :: c :: d :: rest =>
    let n := ((digit a * 64 + digit b) * 64 + digit c) * 64 + digit d
    unpackDigits (((out.push (n / 0x10000).toUInt8).push (n / 0x100).toUInt8).push n.toUInt8) rest
  | _ => out

/-- The words, packed. -/
def packed : List String :=
  ["ADoaSmr3+gttiZ6BYqLomeeZ9A/r2SCFS6P/i4AplfKIOS9RRVQIPiIxB5gX8i25nHbZH6g+qAD6TkPS8NNopbaiZ5LEDe",
   "sONCN6SdptXyz5ripLi9GGrHLjwlXwHaTzt1a7f/fG3fyR4U+Vh9phCq5HBGNHQoTWDuSmzAVKJvczVGmkjIQY50PQ2tas",
   "zIN94mv/X69glMakP3wx/0YU4uBYAtWHRG7S8lPZr9mzWu0w4ZjyVPKh82f7aixLIy3An+mUWGzRXucCgiSG0tEWirzfFF",
   "QOBEKMDIjHV0N8Izm7DLubF+VohrJ5JW1O6BAvKbghMFIQcbnHV1+NU4srn9VyzXB7TdoiWiX6Sb0lesEToCqUFOfM13SV",
   "zeUdfl/nKwANbusj74F8+aaLL1Fhi1AQ2X4X5uvuZK5IMGjNIjbtbPioVh6F/HKjOkJukS1cbQsu4Z+X6g8UlsTbt/hX8u",
   "rbzAE73uZpeNV9HQzdM4hW2lO48FiRqU03hL7bFTm9C7427sdElV01u1LFGNfL4J6+V8CxJaG5tKg3MY/M5HFIIC69cS8E",
   "tuB9BCseOlgqS+B6jT9ahj6BJi72rri417R/1eYyej/IB2B1fLVVXf1cTkr7OLZRrujeIKhsux0DCoeTkPcdmsodsi620L",
   "Gw1c5mNwxthxNwaaQrduAbCAGcXxpKjA0GrBX+H5Zo19WI0XE1eMkMaPeM+w2xPsX2+223nrRf7Zz7kt6BgXp2y2FmMpri",
   "yBBXQ2o+XvW8exWeuo3yX6lnuEqVVz5HfhLhAQfeHbg58TPJrIuerFOGQz9B0Waf5KmjrIFP3+fTaYHJvM3eSbKdbyzBVz",
   "EHQgeibHFx1fdoSADVvHjhNQdDvOdfrT9tHQvrkYf3cGPTekrr8Wq5w9+OyEUsEIOmymBtefIzCYX1ClD6oqNZQmIiwpSU",
   "6ldXjNOXhxnlAA8yy8ZXDKJsbxI1FdRD6Mv7M/jBfoNyK+xJ6pjZy2e8aCt/ZlPQxgDstwegBxzVQjEAjUsqAlFfVRsat2",
   "Mfi3EhOJ7FMt6NgC6VLiacjYkc046DebqxyNdBaHGyb2ZbwlTHXzJRDAWq6qnKC20BXxPxwDwUDv8GuSrR58jCXFQNT/Br",
   "nQEdvLHYfK+lewGSsFC4X07CNrdonEd65jvl1F4yq9dKRDjnso0v9ezuROnwkQIgq+kpbj+OD1W8IvUpbP0ZxpNUDW0UJZ",
   "g+2J1f3YlCHjw7rhPdNkUAMMNj5oj5AjLpyOyNWuEw/oEfUnLBoHvrYqEzgk3nvzenIt+Ge3EztXdWa3zOx8L93vH8WTio",
   "fjXZuL5p2lqdQvpLAQup0S1kzIinOmnD0M+3tsi1qdub/+CUEXyaJuiu7pyRJW0D41VcwNrIOeGpvVhxS8uZFaQoGRqTde",
   "bqfaI9lgrwq6CljNX88+ZEn2Rhgh/1h1q5dvijWZnwfJl29lmxFWL331jd4Lm/PBJjHJAuUcguk0KW8wM6lZUNBEdOHedJ",
   "Rpx4I7CJb32NwGN7TZw3I7yTJ1FRyltqUgKfLKxyWcPsVpnCOm0K81P+K/Ye2a1CmoMofWrxn/0uQtkkGYg+lgAbdQ1WQS",
   "6zIrHJ/DcjL1SjswyJ2c/8XdoYmV8QmZStRRFsp9ygcd0HC8KngwzdZNphnpLSdUsiL953Gv/OPre0BvMFzSvwFakYGskD",
   "GKaI83oSg0Xb+I0PCEcqlqugesTXGKz952gMCDsoaBxQxIOjHQ4m79t15KLTaVj9AST8RdmMR7B3eOUCl8IhQ3IT9GHvLw",
   "numVZgiaYUITuL87rWLNVk8vlTQduv8/MguXHQB/fP2WoNUZnG3Nhy2BOjMv9nD76ZwVEy5ytmcNGcgnlu59/DaDI3sqCR",
   "qxkqxnutVk2/qqDGwqsJd9e3YhdvuDy9kjUa01gd+yEjNCo0EO8kjBD5TnPwgWk0hXGrP+V3aSpPEU7gmQQGSCNsxdudxS",
   "dEXae3wU83fxNniS6ud8g2Vo4PcGkh/RxY3G/MhMeE8JIFVMII4cuIHkja7/L1FJkSJddbD1y2PyK/W79gq8+0VVjcpcA0",
   "FCWxLqm6qBKOppjmn2BoYa41fTZFvtXHcmTn8HTfoviy6aENxiPpms4BJFz0VWUZv6CuwN5U9QAqaBb38M20CCEFAA8Vst",
   "jHJm1GhxsJtF6pelLsOshZ/45BJ5Z4w9XesrdGB8PuyrIstl0hHWjKJEIuQlbob/Wm5zfg7cLybcqsNByoWDTZC01E0eUM",
   "/5tC1DZwh++Yz/jYT3ywMD9yD0WgF15RB6y4s7NB6+ez+jVBjEgZPmNC/tI2DXay0snk9CHNLDUK9XEc301yaJkMGLpd+g",
   "h+nRoiS2dYXFxG7W9jw2fdqV8w/5sZQqWcp+eO7kzuWVeOiHO3mzBla07GGhlKO/ABsI8mBGl3TtijtvTkQFsR7/BEzQm+",
   "C1HDhZIlUIKlJXWUoDRDcxXjAhBI1h4S3daNKDoDKiCOTEeScXcZXXd6Gf93UWUoiqsseN9G5SQZdVDxc/tsdR8d8LDp7x",
   "ezyr3sJCbSxJFINhQarUWf5ud1ub2DWHDM/KQt/0pSpKNj3+dkj7BC6D8DKhZk3bTK0eCcyTwxjDcDijK82IepsDGrjOJM",
   "NxGP/KDSshxDcJnB6SQiR1GzrT5eRPJAu6OPyLjoy/+kS7AQ/q9B4836Ya9tbn93+WmPm3VW8biQ6it+Z/UORN94kmeY0y",
   "4X2MzvV143yfwTK1vxsLQseD6BrM96UWFsE34bOBQ7730PH1iPUr2b7RT2hmva9JACMpdiLYg5+L2gqsG2nBIfEiYuFg0d",
   "40jzmIliQrujxhcYIys+BqWsj3RTqbM6i3be90bSzIbPjzmZEQ5EUyZ0r4TWpzT+ib2GeoFLNy33/KjRzr8TgQlvfKTNQ3",
   "IqsUHUnq/LcMBOq/Cu4NovUg12jgtIWyvBMQDkOjSayq+2Ul1W0knPRhsxWEaEyY8ohGpH+F80T6wb3mplNpPWUhmEYnl8",
   "QiTLV2KJ3DeELvdHvq6Qrw22X3jrUBZsgVf6yPdgqZRjjMsawhyo/f4vfP0lvSqOOCtvxxRsGf/LJx8w/WH82x7fR380vO",
   "KD9f1NASQpFvAvXJECyh5TvRB/ILfuO2uK0jwghTKPO66gdjj/VWaVIjS/EbzKb5e9p9xJCc6KrSCgw/ZsGlBKFE0p/Y6Q",
   "a3kU1A4+RmN0ybZj906aW5A2gq15LhVejk+5+xfHb0ehCMqNABB8w/Ufc6U2TfDEWNdRm0eYUyGSF3K7m2+NJk+FFJZUrX",
   "INgHVCHuncfG9AkghQ0OjXDLkrsRdvfOv8qNHiTV7H2zvupc7Ru/auub3fulfUYbXU0vrn7kO/rbbNYFZ2wrBAs7LzaJEI",
   "siiA8i8AEdt3AmVU9l5hm9bAFQes2HJ35FX5ximFOazNJ7JHquEuOROm/cU55H4GY4JKsZhjqRqatjRWkqqilh3tS/o5wn",
   "pYcmKNESSXq2B9itsvc/kMiUGTylBma2COH2Ljbr2sjHR3E2u/svEWkRQihfJlUALI3E6gZYrq5RHiBu2QOTKnLl4UMTso",
   "U9O7Z0zw7YKZtgNSWnqTVeAD4FYSzWxwb+WTKbCseXuujvKkH85Ye1PbX/eSmMMFSFhHE0mwAZx1qMgJnhJ4ZhwuuWjB5O",
   "LlLX6446FTGxBjo6qWiW2167BpRNGznaLTQDsxYorPos45nw4lzN+LczSBMD35Z6fAD9bLZ9SKtwN5gPSfcdUMAFAURQ/+",
   "8yVEOgBRLQHx43L3aaoZx2ZUcxyfOixCyiU+GiL/H0JkNu6NKFJ7ALU/bV1GyT2ttLwo0f1lDrTwibavMVSVdEL/Sza/An",
   "mNdk/a0g2x4AJbn3fzwSFT6lZ2K2qB9fCq4aQ2Ym3k4b7uS/hngYWd6IeETTiaDq4b7MREXO5vyz9sBErfDI+5PqGMCG0u",
   "RUJgwcc7drRXEgP+glATh4K8VENywQ/r+UC83z3NxlpOT6Md1/LLSg+2dpMXJNYSMRzWT82cDm3Xlhaj5U8NgX+qUrvPc1",
   "gDcUKdM4EdsLkIm0Sy5the21l1EX7lnQcECu6+Clx1Cgwujb8q1HkMIh/l87AGJHTanLO5SRRQ5LfWEHAIS2xfjsZXpcMz",
   "vh+cbWt4C/6GIiL0bKBW6FBVPSUs+Z8sPHcLJ006Y0rv10kgpDQe6zFisEpwoWqyvF4FitNHlO30MNZuRLPZpvMaYez62Q",
   "HdvtAqrPYLtpgvMERiQ8ZxIbxVnjG6u2kjid7YXTAWi8n/BVUvRljqeDk4+Em2S7oe3HPqWMuHQQd7TIqeCAp8uGLWC1HL",
   "orjFT3BcX5Hxj8o+hSZeeXhRPyLJIkwu/4VxSEmk6W6OAfTfd56DmIbKlRtWysIv4OOJoNUftSvLwTO4iTgDkcvn5D9GKY",
   "sY9ui7pMYsJBj+lkMSDyCMNB7NBgRnyVCchXAJtguGmmDTpUEVm8AW6ZXyPXV7rM5NTFAu3K3GAFeHLi/15KKIsITiQ5nW",
   "jNiiawZ0GhZl8JfAT4TVfgBRjGef1DKSw4htwEYP+wknDNhi8Htn3iNkU0uhuXTSwbkbD1/83arqz+V6kS9riHDzRqcu9x",
   "dsWMeE4gVp6swKKeUGCOULUlNTHE4V8LS8QO/ketmCuBpmGzD+f9f28PnkGA4rEsUMcmSIp66K6FX/Bb2rezQrl+WmRExd",
   "lC+nXXJDOytmR+SrMOfyzzVoaZkivfUCcZh435y97dms2vQSsOzB10+DRGGcb2oPP9eoDyAzDymoGtNe2103xlhvexyo5/",
   "qG32GmXI/KFqUYzxJAqueCEF14abCvdGu4TIRE9FvItI848XKuiV4pvfM8WrDAlUxm7rIoBLL0zV6esoSO7yc8KNPDSUOs",
   "nJrImx+iTZvjhAFKwUthRMXLIa3fWky+egJ9bNK/NOf2R1YdM22CSFUKnrvp8xRS5CYN+I5NZThlj59bCLIupUX2qCtdg5",
   "Uk54TUy9zNgClfv4EP2sNYFaJeCP866iNCGAED2Wuqfitl7aiOCQQnstTBcIk4IhCO1Qyfcs9XAVkkoKxXJ0XM0pZ8uQYW",
   "2b6LRegsgIn0yQbIsejtPGA3MgbSLInsXb5GkN8ntGvmmzzyPCL3gTBDX4c7CAeP0oMzfrLdq//8xYe54QrNsCxuqQELPc",
   "LuIvk2xNKSt8SuTdYcDTBbiA95ZkjvFZHxGG+R16bcdJOWXHtiVLotOxU47R37AZx46irRFVSaYLunqTaSh0FqFeFHzC0t",
   "kdgYcYcjzvT/micg0AhKyJJkA7+gyTTsBvXn13IBt5u9yggPDMQZ9+YkrB/2cI/qO4o53GmbSWaOXLmtmbgEHAUm1xxveZ",
   "qplf+FBRAUBBsDZBHKDxSRR9ag9J6cFOlweIzlIaAhOsYHZdGkgijatp1SlW+eNFjQt/fERmTfHrVd1f/9TlQWyIb6L/LQ",
   "phLLXv0nOSr2JTDe7s8K46LBORnRFvrQGREmSX2sHAem8PKRTN1j6gnzzhcL1em2DkLfkriWU7q+gNM5bo3hEfZExWXJ/O",
   "oQ2PAqnWT9nelC8PEg8HsOGm+MF0X83Ug889QoSFG3BQwI9gnNDWiPjYi/bacnZ9mQKVNUP2BGKGdlh11sV9m8fvZjTorW",
   "Fz36Z1VVVyXbQLdBWnOnADQVJRWsauErtYtoLyGxRQAFvE2nEbS+Pe72+9Yzjdk1fdzjGjpCuN08Dl/zpkA80pVMiv60cd",
   "6ISy1/u1YFuJ/bdVOAbgstMz2+9OAl1Qzm8vdMRY2Gc2bvhbsKtczllCTeed00IBP56WjK9d1C1OsQHV6ZffzL2CiO8FF7",
   "qnq0xQBAB5Ig5Uhd63a91DXwsI0S6VWzaHAFejrFJVa2PJG4KsTwKkWGF0hROqfz+AEF29u6MsuyydVPR53SAbHyG1xwPh",
   "+5UA+JhuiC6+9jPYQ6oAUNhk+S9AFJ5jOPgRl8NIdFZMDZtUqq0JTC1UA+Nwvq8ZU8ml3ppmwF4GnTp/HmyoQ+6WilX8Gx",
   "AMZbH1il4iafmx8iOezwSVPmpaCQUwJtiFFk8RpukJ0pSYtBQbt0E92zZ5yJ9xscfon1DJK2Qhu3i3G+Yfx7Fl2A5+rZ6m",
   "2K8nCC4fpi1rVFv2yOxE0BS8qfiM/qJJGigoqti4Y7zEJEpvixiVRFVl8oNaYReUIi/vSgL9ZMoVS/UvBFa92JkhgyoPFu",
   "lhhjXtnpUflxDgcDbhAAUFLZrvejQMsa+DvI7IVGOZM7hp4Zy+wbFFDDtScYmWI7iz+UCGDRqdhmvV0jkNPoQ8iip7Qd4s",
   "8X9bFPGDazcuTq4tvz6tOVS2oC6f4gHjlYfq3OFEhfAUoOqPAQfuoLfw6jGHNXpFtnYGILXbaUZfk2tQOMIcVq8+wD4kXD",
   "ca0+UhRw2zyJtPH9SIA49Rj8HoHKfetj65H2vELqvWyCBowL2Y7L2/zDLKc/S+r4daH3dr7LLBjf726y7nPy658XdksRAj",
   "tUKcn8+EIPfQuG5sPDVE+BaKlZ8Qt1drWRo6RNZT5BeacuC1H3BgeOVJvau4y+7nRlPs01wNtmox5nzqzuEcBxgyLXkBfM",
   "DFMBrz9QIEbwW8ygvMfAIptr3mnx6hJBY741U0MQXrNZQTu3f7j1SZSHjTS8xSrH3LJ63+gsNmu3fG6/8b9TQ7ebX7INXZ",
   "kQvrQ9UvbnT2ZLXPLsC62urdqyu33FdJYvHhb84LpmXGobcxBw67sjYlxatOJwpFaH7hNiLYe114UbH7KxMTL3gnRXfVqv",
   "EArofOo6nshUPPCiDLzvaXabooT4eXfoltlwZfySXe3WrLhs1pT7JJu7XdjRRuQqIGVznww37yqDLzsKyByduCa+htD+aZ",
   "U1oFtynJtXoo1Cb3Q5v3uRveZfh6r4EIZhYAVJ1QEMdjjxlwo2Ae4ypPmeW8eQSi53/lXf0uZ0vGWzTMWti28dntyFXpyd",
   "ByaYz4CMG5fgnIfA/NSpM3KrMYp/y0sA9Yt51maPYRwM46U+zhRFKO5ovv5GYqmCIBGj28Ro8CmdUYqC3kd5hDDnwySCg6",
   "EcIOrrUaFZTDSHpP/qUZvix1fx7bmQuklBHKWhchDLXvprVwIz5+vPJ+F4uRUcXVM2GFsobzrLVivrY7nOTFCoiUsFHY/q",
   "wh3gRvmWwWMswg33hoJQ//T4zeneiNu/MCZ3FWc7EWQ3NVS0KCc7Sy5iAWN4wQOdX5PaKlV5wvYck0g5GBQ37t+liYHoqZ",
   "K3RAIyFGDJkpNrIZqNjJxEwmIyAR7XolE/NjQyQ3jqJqBbtKBHdvN8DRIXnjDbJ+y4aLtKMJw3UnQ7+UyIC0PwPP3gukpL",
   "OMliPJ5DsAbfDX9OSL0MLCb8eArMc7bM9bgH3nU+nUjnBz8UaMHXSMApECCnroHtSS1FNXWZCtVVoDIg28c3lq72sOQn1E",
   "A+O23Fhqliy64TqqunO4c0rzMlrNVgGcwOpj7ofhLjm3Kmy8pPaup13n/Enzg5ouAmwHk7ISjMpnj6IiZyiIGB+JyOFE9D",
   "vCS1zyAK4tacH2A22GXumCJ7Sb1PfruT6FV5PP0gGUSNku+OytNC5pQHQUbiGtNyz9K2zVKRUgo7fJiwHq4dtdUkhcvGN0",
   "mhen1WnUyDuZxFNDJHM8+9O1+kEub1wPp8xXD4DxLNzoMHm38pPxrT1zieZjgP9TdApGvPukGPtigAf4FNiU2N0urrPNDO",
   "sXSPE9j1h2sJZs5MB9/Kf7NEMo0nWHpC0sdYa3Mviw1M/k3Ri9udppSoKkDV7QXySDG+Ah4OYpLAkIUgAl+FVt5z3ziLM1",
   "JQDY2g9PsQ/a0CLh4zjfaLSmSwWp+4nCpwYKv2+ulsCC9iBFWJrTRj8UHl821JqKzKgTUCyLhYwHC6FrcxfoxqFEQlWLE9",
   "mzDRq54jvoLQYD0HEr5iAzdMHu5ydShuGKTxKFYdGwL57qte6P8lbFH9V8r1HGVL6pzR5lhEC7QwYa0czAu0n1Er5j86aj",
   "8zuy+9Wy17/8zOivDnee9Ffsm9vYqvT4njyplxtzdOPn46ry1pxGVTGSMUT9tOtfP4WLEMCjAlKE/oUayl0daqWmZS/ww+",
   "n+VPipfvxKpZXf1XOaaLnMKF+sqlwC0hN1wEQHxvSEozFX7hmJDvZ1MoBMZ7DUNM0cA31VVqx1D4LNf06OuS8joTlCeBYF",
   "HR/ExH6i/QLtRbEx6Una/FQkVxa36Gv6qi2e+YP7yuBp8dvc8KnOHbeSAe0ligh6F+6KofF27VtmfaZ7RwzHyGLHyeie9t",
   "pGVdOqoX/3i9/btt/Ia3OIKqJKRLRAczwaFM8pMExo/r9FRPA8JxWSRx3NARj+1m+cfchpPQNOn7v8xlR98jVCvwSz2fCn",
   "tP8Lrkp5i+8ZHaUDyPOCRgASXVbqMUNpgekUfpXQ10A+20XIngqKe3uYUkfABZ/oY5QBza988UpEJ1NTBGcoKv/ETsoYkp",
   "NF0d6FtLeMBMflOz4EpgWi09PdQ6xiXw9qC2imy9Fc0dJxGlpdH4LQvgmZeKkYiGC9IY05DPgVSDhP9mcHkqcmP17q+7Ma",
   "u319OOVrW1WkLDIih2k8Un3vr5scIXDd4pPRKFo9AcU+P6CO30YQen74JY4RoybvsogPSXVQg3T0ADciSkuUYOXuzT06a2",
   "oldZt/xB+XYESaeoW+xFBz6b83gZ9q8JI0YDOqwWX3MpCjofDuastGDVwJmhViS3qXuCfHS5PI6wMTCgUNAnPaChUuWw/L",
   "+Y3eNdmESHEk09Ur2CJ2N87O6bbsFi7zWNuhuA4NRhfB5LPexs83Dam+D+fB4ufsG5KKO6ElAKCrdYANTnjeRKKfi9qQUd",
   "HFfqonzylVyzNHucp2llShV4I4vW553y+gcXAHPp86WhfeJUEDw4YjivnvRY9Z7+7GF2CjzQ8bppIs2btWPkuyanRXoSIX",
   "+7dIvQwR9pcEccnjY1k3Fpp7Q4m8h2weKRKY4yqv4jRASCcH2UZ8EvrA7IamzT4Og5PR7CSoDa3wQ3eXpPSlYREt/WU1f6",
   "yptT2feKEiX6RJBKuu0VOMoqrjCZSNtZdhooCS6USSnvzl+keel2rYEBvpP9Fk5DWPAflFHvNRWGef4wBSE7dchdjJ8YY/",
   "y5jq9tYnKtLX6VUE3CAS6HcScpavHttflCbYyA/9Oe7NsiCcyhGU0R9AMgvE6tfU7gR5pfHqwx92tAuwGWbKDaehEGM3Lv",
   "o8LHXYL1rBQfIAmhisea/B2vG5+M9OLb4Bz1V2A2EHwZ1//cSc5gG4Olaq2EIZyCbKJMkjvZsZKpWiOzfh02NFMDgKcIEh",
   "F9/4SGYutauZdbtOIs6lUKMCWzo0FIDZoJQDZjaaOWUB1EwM+y6CNZN17cwhF4B58mY1npxoEeEzA3N8qPlLHp4hGzVF0p",
   "aPl2eYiQsMiFmwcZMpLjHK8PUKOV0utlhCSumzjCS/b6CDxKBt2aTOV4psqShjQSxqub7WVfIo/6Cls0ZO0B0r/BhjVj0b",
   "qMK8hVmD2yyReJwnSal6AhR6Kx30qw/t5MUR9UkZxXVIiK3xp8VDgwmeXpei0J7L5MY/XN3fxlJgyOgrxVzaImKnrXeqlC",
   "67MkzfWHZvhwhEMhYULf1eZilBauZa3ZVUsJ8J6J+P/c1m/6ODrWXpytvs4D6XaXwCSLtMFmNuq86UGHtgvqOlOe8oMoUN",
   "FMKNBA9KOm/k+wc+Y5NTnAeHob+PPeUCAojRwIpuDGl8ytfqbxwxBZXMCzyudG4sTim3OxFgsmcJKdPT4/RErJugb4EBLa",
   "+xp2AU9r8mAy/4xDq3yIzLe0Li22fchFqCiyQy1VrNUxBJjzp4z282lvvQmYCUvsHigUPdDFcb5ylea6N5EWKZ4LVn9e5g",
   "kQ+ooJlbJW+oqHujsGg0T8rru0Ox+0U5Zl74yv+S6X78gr2Xu6JTrEJUpRaARbPgkK4sTyjWUicrGg/HQi6lZddLZkYgUM",
   "ELJoHCjKo/ZEnpm/JKaSeL3A8lg0z/chVEjQCT3KSgr6SPGwGTv1/xICKdky47jaZfVhmOf+nhVw0Zd2c9sCZbBqnxGlmk",
   "ipVmiBdbv7GWTM1ipU6QkFd1r/KKWki5HSR57PfoWy9pIWUq2zREbTcunbteCq1kmGqZhu12LF++lGw8ytOyrKahsQlI3Y",
   "dXndw0ADKd7Wsr2IpCGRibZkms+/nQkPTFPsNS3Xgy/UxrtHkcWm945UpXF4fQPtCiN48m6XQT+5lRJtzMZF/a4aDh+rLO",
   "S4teUmIbgjQa1LPmdYuVVrA2NjDkC2IJMcUTsmjAIgS450eiKazWPg0erEzxO6IPcjzIQs2oXdluHaSF71gVTjS6iHNwH4",
   "AO9k+zihUmcnFnMrMLk/+PE4jjVkmE/hQ/FcAV0FLl2ZjKOh6LWZDEBEn9Ne4H8NSrjN+e3TBRrFVc3GrFsgclIaR6s7kU",
   "5gaFza+skGDUazWTpnm2Ve1ivXONhGlPaOUfQ6w8V8XbyHBlaSN+ocsnuGIKwTLh09JEt31EhztQDR/qT2tzeT05wyEQrY",
   "7b5fsHktd2BsAtJI8yhUP1cjB6goYmGAey+MPZ8NMIgWtLuyjAZFlegjR3mTFBsfwoZOa60JX95zJYrx4dGGVg0cTToueX",
   "CSon/fJAFZiA5Rs9RwUyozRw40I9U2OeNNONnWdYJ5WBE8oSkfxVkWbdeZjgJld/lFCxNqUo+1mqilMJGOttlg9nVyc9dW",
   "y5Tc3FdTUPFswOwfC8XzXpelCpcfdiKKSC66+2FxFMuQRKyZPa/9wvke3n1CcUi6UHjgoguUpiNgdUm6oVZV/vreQDBdMb",
   "Qc/QvR5Cft28gX2QwBQ26oABUIH9vGD17gcCFh1q/X9U+P5/fe82dZxAu/yzEqKsjudYd9sIuPgk/POBlS3fU5FoWLj9fe",
   "jZ1EBU3OjalhjiseXESIPEUh8AQIpfVzcH6jnz38diLBxE4y2CySQNbMG/V6Xph49/rI1SRDrD9dpFWvPCLHbZf/QBLJHd",
   "aDd1rUlKUggUmaWtOTZSc0efO4IW2OKzfT/WiACTDVmS4AajSmwgOdPe6qAQ9z5aGbxsQUDqwr5uKU7EvyLfi3SjNdCZFO",
   "wYP51DZ5n4A88EBrco0nxCQl67EH1kZudcZR3QUeEe9WIRnc+trMCy/IOcEF6Sikr4stBpaiANhS8t5Xc1GLmrx7XqzFUB",
   "xzBFkzxvY0kPL4IP3p/hgMPUWFGNv7ohCTTIJ3nwmFuWdujtPzGQ/kQ/EsCaoCsId03NtdWwFXcQQ2j3Xfvfguc2nm+Rxs",
   "aR9bTOvzVvIMNZ/oDJjQcPfDcp4do4/l3C8rhVS6EOx9Yglixz/UziUVtikHfJj925cXEp7zdqol4M5P/tuF6NMdbXwJlI",
   "OACaDMgLpruk/QLLsx8puCOk4ZwE7MZkJJDrsDxY3ltd7OtqmN3Uz4GX7beCTsCIwr2LdRlbzT1V1dYQATeyI7ckPZCtuo",
   "7WmdpvCxY8cQr42bYG3crOIG8ALfXfcH2gFvTbS7H6OE0RGhhwVvZLGTSfZU2q9bUEW4LcsAnJQkzclMptvR5cguMIscdv",
   "D6yJM8JItLaarGVG6bRDEexexsq3UkCa7JT7pUQtFhDFzvJl+b/e43QXv5B+qAIXrjv6hafoBjS5Mbj5xjqblYCDPvbF1A",
   "IUuruRkfh37mztp0KQ8Vik72rstDnqiMQ99//WTYWA5o7/eqkWEedv+cuhu5DU6xtZZ2kUrqmKsT4LFdr/fzcAwwyh9zrk",
   "LXfjNQ4VyEX1xD3hi/fnsRI1/Ls8dvN/og8CvDfhyejuVWxaVMp0D1tSBqqjfT/zqxvHsXtw16OoL2ieahVaYcpIqTz3sk",
   "yeOxc+7vAUwhAQTVXOq5aPDKbCk0nRSmTlDVb1Ics2Ic7hlJi8bb20hFjzewaW3WWWbdL//s7/LsIYK7ZdNa3riM0dBbvN",
   "/4bZjKO5y7gZq70H0zIXIO2E3lvdMxQJWkf2TOz8V+d+/JODp1EWc9eatbw4GKh9/5jE68HZ/WSiuKC4kDEzS3cqEZ7uNh",
   "6qT0SpkLm/f3qXESzsI97UBfXsmziUzHnLNiYAAOsXGXxSHlkvxUxSvl/znSmjUY6HBOFdnBnc6mRBwczcUUmLn7pfybqm",
   "dpSP/e10U1vR8SJL0jzvBMTfKWMlmiXys6eXt2hczld41VIeCUm3gSIilipbHvz9jlj5zTRe82tgrajUP1Fb499jnc/4mI",
   "hLTpG27JvhQevth5PW5o9jW0ASss+gbwLouYZ58xQmeaiXRWY89/dCmn8J9J72C8QEFTQcAUcO6NE0LwMyGtRrMlJhugRW",
   "uv78Osqx5QqgIEvnRZq8oHsx/HcJ3Yp4zRCUk4WalMcbFg+8lNjE1dC87JyTsWvUXKLVLblK5xlL6L+xzYXXNplhyzXSG2",
   "zncv+EdzMq8aCnnzs3S0e6iXdAXONURO789SxzEPB56hg54ndkCcSzWMlzBInZep+jv9y2m0x+teGKZ+4UbI1Eiek/ZLnX",
   "es4Cew+ArttOPBV3ijbQ3+RnUez+Xp7p1gnJypQAIC+DHCT0aUCfz59TnNi4/n3LfpV4ZBzNev7NphRHoKVmw+6SeIJ3/c",
   "/7eFkWVEa021uHKJmToP4iwxrnnGbNbeA1GU0bKGXP0PQH2civ2/sLkOlzLRMdYnI3PECy/QaHPr+AgRI7wVAYCY2VMZPW",
   "7vxebUoqn+ne9TeEad2CDTQ765zjpjTjzWDg5/moyrYBe/4SMV6zNDMg3FpZWxICoBKXXZSj7siJfDB5PudMNk7paSdhtC",
   "PM5+AkYSyeQdKNsPd9IlLjYCZQF/WdaukP257W21MXl7jMltis/ui9aY3HFqP3TYi5x9GYu+6OEKklUiFhgLNHr/Ni9SYA",
   "rno8hNCyrdyceSrjrgbFDDIhtG3nRjibYdKu/ncWenYuK0pd9eLZEkPMEr3Yg8tdQpdRq8iTvWDNhj/M8i9AfIjfTssOMV",
   "BngLESI3tDuhTb3kskpixDWwbSDNm8gxbCXaDogDn4luMblm8sJegs60piPCbVY0a/u38gM7mGAyADiovAarxi51/YqLAV",
   "8RdkVprfIhlbyzR+Ryo7+OjoTEfw3v7Q3rP5tBam88dE0lV6fIvHOYfk+9UX5jIyBgE+USMD3mJgUHQYk6q8TQ5bN2/myQ",
   "rmrjElBeGjhpLaeMxa8yeczRHe31oj2NOoS/1m9AHLCfU7GKG/xaH11OmbwDYXielExUsrPoCKMbBf73tkDFm3CPAtkxqJ",
   "yV8eVtSkrAwaGpaMpEPEwt7NQlFdeOd/n/Vsna5swVd3QH0BKEgHNJymwd2eJVR0pSqsbwAeBv12INulByxEgTzGEciIKO",
   "xsH15JS91+oI9FBEijEjfnTz0oSPiGuxA5DSg/6/5+4eGP9q75XkacKytgRK9BmNUZHxu/d2fUPBJ1P+NIkVbG2GAUcHh5",
   "LcZnomoB/7d0PRsMbQYqK08YD6mrWv+hSQ3A3SW5lMJfl6Qa9m03//Xn4tg5jv4PRXlPVM7bse/b89VR/+EH+XJVLf+4JW",
   "EKrZEVqEHFwvZmgCSsWKB20z3I2WSNZycWpo44UO6lkGO8TF6wsTUs/eD/JDuM5O3apt9r0CjRVB14h5Xf3aIggywd58cy",
   "T9q6IhCLvTzvc3nKzequ6OVp7HLMiEp3Iu1KaWRlZXaLMF88hzqnY/9ggfs2Pr+qn2wF3937AhcmaigNEGxrd8OGTwSEuE",
   "biqplCstA3H8g3uBNooDjnbctemnLHZAvSM1xgTbydPwzZSHENeCzB39G+AZLvoc6aGf3iBOHv2nIor/N9hSo7BeUCb2as",
   "/VvensrjLiXhPPANk01M03VKEn+FUID6EUxnaJGxQNPQpvNMKvGG6zcfXXaLz9d8YPD4VYQgMdDFiupqarwFa0ph5TFoUX",
   "C0LIU/jlewQd64Dn6mY/aMLjUdGdr4sFo0ik4QuNJBXdE5k9P9i9QekQl8+SE01fWhBSaOAdIwkBtdyPhmFM5PO0S56lDp",
   "6iwKJ/4Ym17m8O2HI7y+ScoarpXwRkgfcZyqksTLviG1l225mzOlUjyPIPh/NKOXPPeWq9YA4P/qAZyJLERv4W8syNMdm4",
   "Eonl/FJht5JgduwINDUnUTJ2Y9BSJAUZ2eaTdzbTwzzV3sTvvaDjX8Qtb/vGmzeHbyoeKjf9S0f4SuDm/T5uunoH5RawW6",
   "3YBGOBfahsFGWGkVUppj6XJZnA7LpLvmG916KMS8KJd/PpBv4aC2kbGs56zirGE+SkRDdSBYRN+f9Vf8vT3B6HzNA6HV2S",
   "nX+PUA3DyvULYrqEO3Abcb/xYNG6x99LOudoM0KsFvYY+WHqSK08mHIxss/NTAns/DJxMzFEYAWt4Ac+LjZ85EyFCenT+K",
   "EgZHEir4ui4hm7+CG/aajtqooNH2hx3+ZVkcUYDAstUN/9gkvVqHjJobrKVmSOFxjXbPaFA7RH+NqZiD90DBEwX/qaf0wG",
   "AkmGmE0NsuW7l4oq3fz4LLjXK4Zpt+n3L6EKZG9Bi47FRhcMxv5nDRFLY8UTPYn+2KDpicmaZCsoXqquo7ypm5G2KUjJC+",
   "G7pbGrZ3iE+SIkUDxtcbtK7UJfE5E6FeYMKQg+R3pgdeGJv6ch5vlxaaoKBHU3IANrsMgbzknw61Df3ehekvVEmr43SQUl",
   "YF2HwGevPZzGUWtVTjpKhq6+jbrxR/TKaPl+p3Pu3O2JuPLLBnGzQeQDbnKG/F3Vr+evDCoMcUA7KjsqhbAptisPtXGYkF",
   "1O120gCRGL/93ZhgyAoI8QTY3DEU2t1v2Z4bVZnKs632QliCFuKE+H2qyQmJU1TD72lol8QLDZBgEFWo3RBcLe5Q4Ue152",
   "odkcE7mgGWYsaFTxTa60bN77ZBhKUti79b4UX307pN8D5DQ/u5LhpiJLSL9hVxZ6MQF80+6dmJS69tdRD/qfAcLs4aWFPK",
   "v9lUINhKLcligB6u4AOzeqUh5Y4FKwujzFMWlqEyC7vlWehUWy5CQaN0erlQobgZUAsky7T6FQ+GBI1empbWf4i7XznKVt",
   "KkQ+XALOxeYxuOnKeZfejnkPG6KToU3Em9a+pockE2vzrgfbdi2leUUEAfxatdCbOpmEny60t2pfDBc9ejTX6pE/DGyYe5",
   "M5ICu6/H1Z0DUq69BjK977osIaTJcRO9ZgGwR1dlLBdTljxua5jimjVt2T/8wOsBBzujgGng7W5yPUUC0t+8+0Nwo0omQB",
   "gwsnoO4RKrYJws1RcRcYUxg8OmNtJ+oISePO6VGr4xs0LySShXe9111w1SGfdvM8tdJJ9sqZakWGww948x+8TIw0eX3+/w",
   "6+iI0NFYDQuzzBVpMnTw2oVYVsFaWNxsZAQF90So2pOSl52Wkt48CrGjtZi7heV26c5Zgt+1Qj6Vpkg9xKuY6fh0nj3s/C",
   "UxqGDxJhyWU6A02d39WGeroL2nbxMOpagOmEubzBlkzhN4o0UgcRHwBY44bMlUyWDPEKzC2O6r4Hdzh7Ycz6hiEX90MEgC",
   "GUh6ggrUnHQ4rDxfUww+FcONsHIXSi2Nb3xGuXqYDGdl62aZmtAgpEL7DXakLpEy4uyKxLUSFXmH9dcCwIGCq8EQxs9nZR",
   "jT4QKvOK3POqRR9E/fg1vL5nS8UnaCm74zMgDHPPTjKPUHGQCjPUtB7ORwkVnofwCkgfqifY5K9xR9jvCDt4jPAS+Vwqbn",
   "DM0Pj2YpYDrxZyW1xBMsFbvhMDyYLBY0uZ0USERO+P5U38c02EkiEIqTzLNWztUSJ9mQf7u43hT4JBZNNuCbLO+LLRhTNd",
   "wJtsJSbJHYUNw7YskSTqDykYqv/i+CJAXziwwdmTTeqfZ+9AkG9gZCWpxQoc3Mnv9vRttx5Dl9dnwbLLUNOhNW/9HGoA6W",
   "jeegA6s4C1AazjnaIyDrIfN+qPLbkkSL/ikZrGV86dz2bwP8O48qFNVBfpOFqoy2TpGyTUtKJVDcy+qcJ8mnc2JvppUnLv",
   "Ivmb/JscDtzCdQdz5vP0XM/u9tVu9zAiuV5tKBKE30pMG6+M33Riabj095w3BJ/YcaybD6eX9MNGVQ/WVrPH16pnvu61FJ",
   "3rneKqvTv0wHzE3uHRV05ihw++wbQD/2PfNrj+MDjB2cL9+a7iPdBMLdTnRZ8D8GhGtfkFVCy+rEr0XFFFVEUyhA+WmG8O",
   "ollNN1T+PpLvuKMqTX/PYHr+2b0CuA6RLy3Kc0sQVDJQWGH02Cu8FndmZNvGviDMbQjbVewAyHD6Mh5DFLn7pEebDiZZEC",
   "ErfsEJffynmdmuTKHgc5c2Ogh1pdTQ+jcLHy0AZBfpsNL2EC3+2Ecqd6/rWqBJ6R5mHyXZUPkJDoT1RLFibOo9GSAJlHTC",
   "MUmkOVW6pn3z2zoKnr+9lbB8QrBuIck7GHrzcSr8Blzgl/LdSDnr4GoDIVmNzpXoXdFjirlH1PwsbXMtR2TONOV0QnqY/H",
   "RS+2O/thwpa5o/mYDLQGOM0mmU3defmGkRutDgdku96kiA/MDbmnzuyZa3EQdRZBsBdxV8G3Mk1iL5y43C4Xolx7gazMpS",
   "JXoQaPNfgGWq/du+kKYVUcPxM4z66UfDbfJybKFWsQZ40w5Gb+NgZH7k+fzQB4IsS1mOi7UQfhGU3jHpcLTS3wYe0IHFS0",
   "tk6c05V+CR6bVDZKxUBUTvSKES36O94ngwru4Uwq8WqmHuJ6r8RY3hLl/wxCGjYnrEMrCer4u3rWME18TG3w4k15CL4RFQ",
   "NwhC7JOecWFjc8Bgn0lEFtUivWByYczlVURmG8ZGKoNZQA29b1v+cKgpnA7TYQ8lgwrWdw7EByosF+ttMuaWXZwiNTgjZZ",
   "FANYo3bgL5kMCKPeQEMg76tfi8uQkuG3BkQJbQz0ws8L8mr/EeJZ0k0YVnRsl4Z9w701dMdqRVovzxVhyUggfyfrd80YYn",
   "3LRMRrc3SDLo5SznsJRyHgbj6mP093LAhN02Tv2pz0YwWAlASJSq+0lDat5qjieqhJTodwdSuMY3p3CLZ3acXHhi3l9uvy",
   "39H2bA1X0zl7pTBTcRcT66P1QyAdhT35lHa8BV43wCDJhNBM39LvuAbfGPDQef1BwFBu8vmr1JRXoWm5boiMiFzVADp7LD",
   "UGVM+J7hCGOqNj+lWfyYOJUgGG8nK8NbBBbbMREXLv5obYdsNuTLBTEdbG+u1yo907NB9FU/aAqOEDYyiEgWJBYWtnwAZO",
   "um3nxXXKc6ijE353x1SjCluLnz+nFr1LAges3Vayo6JKofrnCAdbUv4yX69hnsUo41KDeh7G36qogCUgAByBupxW5KMCMA",
   "6Xcw2khlhTovY3eYKphgfaLMH+gugvmvhJBjDKvM71fm/ZaFZk0Y9EACt5UDv1jDdP2J7Lxk2/ETARe1vK0ajZHYkhg/YY",
   "60q30IBxYBIuAFWJbnx/hUXd/khCuXaNvYaKciRiI4v1NcU4CTzeyuEC3AtI0xthpNzUtLbeSD00IVCw+XGyhX7owbM5TO",
   "/4Ap9DE8UVwjg5SOFQCt2+i+YfZ3DXPY8hyhAvZXTMTB1E7XIyJgPcLOB2yE3skIl8cjQ8j1HbZeGIm7bZuwqycR/ud5Ib",
   "BYvdn7WYYDMjaNtppQyHddt9QbstynCPjCAQRVCNB/EDo7RvGwasGAqKoBvdhnCMUuBXwv/LlnFhDkr7h9jiGbqADIRrSe",
   "LgJ3XnRgSy5nREm0Ej6e/23wJsV+1WS17elhiPkiBEa9ETUDdbto7p6UlseIrwEXPo+BCiNjviuMl2Hm88GC/XJgS/Wryn",
   "JcNqaHfk9tdvEpf/TcLA1rfv/BAlN8aYPMJ0+UmK1+2OOPG0DHSquCCCYEWSF8Yo4v/+19zVC1x5+FUsBNpZulydY8oZ6E",
   "Ln7mBbTH7e5DPXi0rdmotDuX+f2u/qlo9vzgSwxMxVnMa2ggKKO6SIw+CzYESMph+XeHK3MXlwyQao2xaA/0qjRX2AHrhC",
   "2I87PrlKYZQeNa7fr6QhPxBcZMwUnfyJY0ERpBRco+ZxfZCO+wXpmm91WH+XPxOZWHunXeDOTfjP5jvuAIGUZgQxXyyQVh",
   "1Dqvghl8x9aRg8hmAZ0zLMhSOhVnYYxRxZ6ACFMaT6bwqca8ZTVO6I2QYfpsBGxESMmo2hFWLVDlkKZub8RIXvBhQcdhmn",
   "Ouc+kVtSFohBrmkBplmofBlQEivXqrE8BEyOydmp/FYWrOb2TOdIV3/HzXzzw4D0eTRc1RvWroHqeY0yU2o9dcaB+GXTAl",
   "m2Nm8y6YV+PXVG7UTlb980SYmhIQP5YWuV/M1Dhb821oAgAUIQuWKuuLdyv+hY7HiTaRW0lIEbsSHO3+2AW7yrBFGqRUf7",
   "Rcyt1lt43ugF0NTn+tHWDSLzttL2qMZ0AcBQgbckzia5XoiC+asbtgoPilBMYYdCqUUOKcwOTbNML+6NQPX6bYtY7VpPck",
   "B7I9l41RD38faLPN9+RwKqwZkHjSQhlaWZCZMk62TYXQxIA9vf2MphxGlTkMVQYHTLkbCHHHoPlwYeho0WCWtrTOsBv2jj",
   "0+J7gwU8VR28BkuMvSSu3CaUODZBuHMgBIeRTur4pS5BvBvyGB1mGSoqpXKz6AhaXB0SyXqviNC806kkR13yUejjNHOhQt",
   "FrrFC26X1UTQrdFSfJ/MZ6xWUh/3gOnQ+KfQ2rRHJ41Bed5p+ZC4uOTegwoF0lhSkZ1L8r4ypXOWFtgtqJT3uKOsKOI/pw",
   "6aEIteqBxYxW/WmhQkWsaCkXv5zNGNbdSImOzXjJfVQt95WM2Nvy7Ai+GpWr2x/v4g8kFfOWA37YuRGeUJBHKcfO61iC+l",
   "fxmqMh3azfU4IvBAUAFsCH0srauI/zOGXLLbVM+Q7K6BaGJ/x2P63vTW/jn/8RIHFhEuYM4B80EnZsHm/W7BYmAyiBF+7q",
   "fNU+elUyLp1TTUjZFNJ8XCHbAC92rXcSBZEeLZvFqoSD/b+ICmcrECX3MKovdHa/tr5vnGds2ohCW1gOw66s7xj2jCDx7k",
   "aq5VpCx/MxlktrMru6fYraCb0hV5POI/XzxSosP3WHEy+1JFzkMrOqoQdRvjs5MDGo70bsP6DSYWZLvAuNnWOaV+TfA0Sv",
   "C9xwDypWJ1v0KsJiB6H82JmIVG9XSpxUcJX3UMbnun+JeIIlshebmOlbDDkNF8Qgnshe8M9BAzrw3yRlAQfkHQdBerJVEX",
   "8CqfsUBVIl5lUZIcCytgDrjEDt9a+L8/2W772s31FOJrIGwDPPzFv0VL4zJppTDMhQdoUmQnt5+FUZawNlBFO7DgTXKLhl",
   "n0+RYZ0qwKLOKSTAHI8Py6fDOdgIFWWwyT6PC5rHzVsGXJM+uNOo5gEABzN7hIp9rlQPwm/YBESBxYJe9hsw86Aps/ibaH",
   "zUG1pV6buBGVoSN1ZX1gqN45SsePFKOMVSN9NyP7nK7WbRrNma8y369zKCIGHXdVyFQYtowPIB6a+NtdRLHTKm/3WcwZf2",
   "pxU2eH2Gez6BQ5A+OTmXKid6Wo5DxQ2Sigj4li4JHiCOmls3TR8EXAaT0KcuSPuPhXrWkX2D24b8nC22gfczDSNwRmOD/9",
   "n2TEdk7uFqOOhkrzNf5sEIuvUF/ngb89FYinYhGM3fRs6VXZ61NffIC+PiBW1X2I44rDscmJ0loGEUbCI8cmtcEXVPTWoE",
   "nKgHuLcJmB0nJy8XdytCSjTCcFNvmbawAYZipS5maExp2/ZefwFaqtAzE2aO/UzWA6VXNkfd+IrTIv/CmPT/RbcMqNSQ5w",
   "0tK/sHxnTe2JDADix8BErK7vT+P4XGn9h2NG8pwkYW9zhKe3mlnD2uvXim8DuSk7HupJwU2fY0Ulqmb0A48wXUIcci0M85",
   "IwIYQHNWxcSGaFuRL4ngr2XlAaGzLJfg/FFzqyzhgyqa7bMq7//w3B13iFDYDf8AANWvZrELgQqqKcQCLzUVoQ7W9n34Yh",
   "G091VPEijNQ2V4K9+xCq5CPp5pIFOJzgjxykbKKlLYXtlkibpyE/NRPc7vSuN36MjIQJlVoSw/ynZKtBlI7SziFxzZMnTR",
   "JEyccsgUzdlLMgNA0dYhwfIJ8D9hr3/bwqCaRYmpsYkzFV3JD5C44qRVd6WP/xvvQ3O6lwY9YSHRr0MmeMeMFl7VuGkqXV",
   "BQ8uBfznmmxu8fVagyPdySDKlIEWYm+yIQBfzEvP4i+1avaUdD+ECc2BMR569QjusS4IR3krtPZVAmW3eRj5GUYrRao6ko",
   "jPtPrnn/XwY6aqe8qPAfr06bev3mZLb2T/Mg9zmxxEa0swfz0drApwZpEx94Jxruw1A0mTf+ecQg0S4oLVNQfvT1IpQPV+",
   "ZKtqXq6WFOMzrSOSZJ/IYZW2g6r8r1mlv1h9b/GNZz3WJSaz1iqUioZZ5U3EVrQ6PrbG3Ta3+M0nBtdIh+TWlxe5vNXD8j",
   "k54V6ac6UdhMb2VZ5FgHlaWPkTgowqMAq0L/Lvs+L3ANFag0pc+tazU5632m+zrBTmOf22jDvbmOnTUInpRB9KCYGp4cvr",
   "G5IFJfop7qCdk+BBnbnBeO2KNIgsKQDKNp8eVYYmJraU+OyI7gmeICl9ss/b53kJFQg7D2CrjcDrhL17XXfg3kDgJhBk6D",
   "4BB4ECoRz6TknIy1tFYfMhr8QVg5lIV3g/tzm5oZJXVwR7eVajV9m3RMbVFGkzzVKJ2MjaqhhzIzp2HaIkcWM7A5Z18fp1",
   "l5zLgB3DSgGb6ZizZJzAov18d33Pz8Yj+2H9BqPk/IQgW5Lz92i37S74q1zBDFvlRfFgIJtUJnrA+03D1a3kq0zMhUys1S",
   "jnj4Cukw3LgpRM/aCJnDUyRZeAxgMKF8sTo7GdRxvdidPSpXgrlSrFcw4UhI9FEkbD12X9SYbJ/u+KbDI5O5OPIL3+86gp",
   "jdBZUqYN3XcZArEC/yqKIY6k91vi12vb/DVXut4Cef0Jg3C31ezdVAdyrW+mf1wQ5lwl754tbeSMtU9GY7DmEgAaw3c2yM",
   "Xd5KkItWdhOl0Vml7Qg9z3d7Iq/5LSMtOEqPsR4T1E9nq8EsCPTuVwkmPuNVdwVjVeqAZtzMi8SMpnHMshOyPNJ/a5EVVZ",
   "uAgNrihD4DeVANG+b7FW09yGgNv42EzZhzeHOTKJQkY13nqiG4OcwR0LbTyXOUhIyjsgsqCWa+XCtDbhrdQZddltn/PhxM",
   "ILOw+/K9+DIMvlDw48YTdPwodjFoceJkR/XM2ypRfwdx6QwgUNkZ7NOnUkiPGv6mC1pMKD88HJTi7NM1+pakMWP3+DUyUX",
   "dpp9nTzJui9sYs0VQsjTIR1tMVLdlefhkW4xwNmCgqxnjeElMGMTytO/kNmeFMtVaingqV3hXvKAeUkJ2tiEh5I/EyCs9x",
   "fsdVfRRFd5LKLmKt3bdG0wOA7R9dvciZYxXoFftR2ftGSBNDubP6c9rNCsi2oUdkEjjr3qcGdxr/wE8CgsCeDaWEdGdovA",
   "8fYNeCyaBt2SXUJib+YYd2rg3oxC76QHiE+0msXyOhFfczFtHrqPp6d7bO5YpojCfs8lC3plNzWjocNZKfdMdbWs/Z6mA5",
   "9IqX8KyyjfnwuYZMfjdDTb6wb9LnNZhgZSyPg+XVPeMBXEhqwjbE0IDB8b3CfO8as7TJt0clKU6k55qQa+SQvoIQ9NOcX0",
   "qWZNY2rXwEoXapMr+x1vxc+TwnUaybZx/61CiJbDMcrv/wQeDVaVAAevwRQUH2wBruad3jG2XEZbcyANNQY9SVi7/xjUfl",
   "GeOARgyqBfz8sQd+Wv5zXuaTQ4Hq2KF/tGscjGRrGIuwOoCn9O7IGoqx0OIuyWjcr/CgcAL7bsU0d8APqyBvVXlUlWaS1f",
   "8wBaAJ0ww/oB548p0gSfTYoCiy2mfDff9ljIVH5xlNmEgKoDmhHv3LgqHdMgAcqeOHQLwceL3fRfTrrpraXjJ8uDMlB2U9",
   "48mX0H40vpo1RCkW7vR2wLuWiC7/15lJ0DrFjjF/KLYavwthf7PKASitAU+exTwxgLl4y2vi9B6xdUdidMKNO77XvGiNiY",
   "j+kHFwo4uteKbhTPdtfc4Zj8dHwK3mgBEkrYvXEy4Rmah/pobySrOfu+cs0Lv/e8At5NoJpfteUjtAza/JzUpw4Qkr8/MS",
   "B2RX8vcRn3tFUfIo1cLRR/jykntqZjp5elRkMloajFmsaRj8tnsxkUYiG8ha4ELflPPHCcIKb3SdXAlUOvrpBUpL1MIFEf",
   "/V73zgtUbuDJ++02QtFaBA7kARvta6tbuEK/8CpclXn6BXqNywTlP+021Q7bFACvwA3PbnTChzl9Zwm+ticjhJwwwxUeVT",
   "6/GEX3iEY2CKM0VsY7DpbVt+TxbH3Z1WvdCrxjWPx2Woo0Erz+xPZQ3nwsj+S7o4Yozr8MiRDps3AyLkWQd/nDU4+GKD/x",
   "fWY/OVCecUeRGpv53Plr7b2s0hVwskGosBgTMIOXvFRtXajeEGyYpMRN+yVjGYSzKAP3lGQ1IgVnw9uIenfpZ360L3BIB+",
   "z8HmuzE315XARsYpxDgY0ZaN8yC8drR/7zYi7MNmWzVWO1uzJMcafRv2miq4j8zm3JurAipALQUrnSAC6RtBN5j2cHMTts",
   "grQ3Tfb/TVYG6QyuWbEY2Mma5+7ZQQrt8hkiVFyM36v/oPhKUsyTUiexKXxeVfSDaq28CWawRXIWKasi3nZckfEKMm8gRU",
   "nzIX1s+e1YcvVgHWaIGo3e6fTKMXM8Flk7fMpA/7Mie6XBW7jT+kh+tTy6FFuEOD6xA4RaJCAzBQdysfms1IJGq3uwGx0N",
   "e+baV0eOaV8EtRKd1zOfiMLs1Z5Q3kTUYatdBfc8ml63GyvRR+KUFfxebSkUTWIx13rynmlyG6L0ma+EFbLPBurXK0WFiu",
   "8H0tLGxOzm57CNrsaqxEtTXL384aNA/YzqgwDsqk04lL1LNl7tJ7ivVdhEankR8ytZPH0osoTxMW+6lHFbwa121KWz+SVk",
   "82nFHEVi5hIN4tusGYLrmk+Ye+VUyqVPz1wYieeORFN1XiOdhdVvaval+WMw0LWbCOQhmn9vRU8piUzVb3oYteCvip87Q5",
   "dlIw4ZcgNdO8fhqj3tRcxlA5PUs7CwQK7fJzXotcnuMZev+xin1+0XaODwR/5+emIfw3JqunH4OVus1PCdGAN0b2hk0uhq",
   "RKln9KgMoEkTYHuEVrgQ6w1m0+vti02f/GBed81tSyOuXcb94MpLPVNV0jF2TnkO4pH9ITNFG5P4wejRR6TiKqBujCOF04",
   "DfufY7T94OGXA1mlYdOvprafcX1LBTu0Qb4pIMM+HgfN/M5FnO0Y7mMuhc2xzj2PilJ4pHlyvL/qDz7fPsaeU7Z/f1ZKuO",
   "2i1uRPqFmOfezzWWergoh501DLK96dZ7/U8ms0HCcxtKFmaoABY+xY63Zr3gZIqGpvVgUj96wwy9rkhepH7hOxLuZkABfE",
   "bE4xS76eAT+FBvgTdLiZV6OsYLBvJhng+2zH2e3YR1p1Hcb02HqbtNc5Ca0n0JUP/3MHrb6BbAhk+IMw+Wsxxt/yVu5rme",
   "1KMVNNQqNccTD3eAvaESKXBoBreIGUsx6atxwPFu5EIiZ6JghxR56PlwTfKrUwg5LxQ7tkzqfEwnxi4t2Y69wLxjHrl4we",
   "lhStHdDgJ6m3sjkj1Hjvbqtz1nTbpEqNlBshyKAdW1Drh9rYbrtU14gLChjV+CXSkgmKHn78N38+6uMOV5O2cYj5y57Qfj",
   "HwuM/zK4iPCPyAQ7XdOswt1kDA46nmIolyhUblj5t5YPF83nDeHQwnxxC2sG7wgUxFBvIdYWcPBfry2ddH8K2iDXmi8SKl",
   "lEsZORSE9qlmj/IWT4gEJEtEh8ZbqGsVIAeF81ppNSkf5e6ZEu+o9C3jkoPkaMpAIlKAVR3X7iOwX/XPwZOGsMePALRali",
   "bXLBzxebd0Y24EThWufT103FRdmxmDS1PKxyypGSv+HQrcK26SLDVanRMhuopA8HV/wCGL9N4c7MnZ0tJNt8R6DYyt5b4o",
   "46eDkEYlo0qeKcARlCU6/iVyqiYT2Uv+Y7KBdpdWwkBGo4cbKiB5y/VpM/GLet7hqWnZv1FkdMUjTP8r4Mbg+vxuQof6Lw",
   "QyiGlWhzPEFkmu+qUIOdWhEzGYTbDUqynbpbDw3uHDzXL54+01PsN724Xk9LbSOIgd8yqnguQrDvmf6hYGZcJLA40IAtKw",
   "8sOdH69gfsBeJkhK8iUTMAtgX/vli2A8W/eGT7KhGfyGbAEwV/MuFanFvuSJTZH/J95Ze0FATJ9JBzRUmbb+BPql9iQTfC",
   "YTCokQQzb5lQQ00rly1kUpgBwYjhJQthsy+ZhPc1N5Zqe3Mvu9J8opdkiEEW3oojPu2eokKB0A01WvTt4ohV22g6o5U8tH",
   "t3ooFpG3vRTDRfkyrEUfih5hUX2qxOVQprrV4zs3ik7csxc8CICpzL+VwfzCrU/rU0+ocTnAc5o1QGf9XsryxLyEp99AGf",
   "mz1RRpvQgEzyufgGSCtVBTRkqFjU5/mhNrh5CY2dG6aba3hCJz7HfdmyghSJqRS43SqeBo4VHcJTxeYNAc9SynihK7bpng",
   "Cpk00fiaAwUKBQ1qEX9pNLLagCEnVsqTS6Y1KB0su30THIb3lSzij94GTx5T8Ni53JPp0h3v7C8uxYqfNY10avD3pexN6z",
   "6Wnv/WdywJT2IYF4zcAHs/h3GgtXRaGBaSkumWxnDsl/MJTd5EvLNz+fjfjAdEZLOglbdquj8KyOHCIZ6zDHI5GK9YW7T7",
   "B/G2kECCozuSsjmESi76LO77lNb/V1puxPHejI06KUopVbvSkQCLxwAGDcflK6vqD6+WK1Be/Dw79tl4bgfd5gOGY2J0tn",
   "H4hsds6QApGYICZFuMnjJUPGmVxiGUwCz7PjUyuHccVAjjKijmnLQDbNrdvgBPbc6Zs8UDakiN6kSJaKVcKREpQkI+YExa",
   "+prdOlF/d967/yNL+bKq+X3ijnWxmSnCPNlRSnraIFlhi+8nYuGw8+sFWT9ijGcHi+q0JK9ILYs1Ixg53Pa0iMyskGLWAg",
   "dVnoCalIZi5WoSeoF3i5GAEomER+Swr7dlmnkwH7Za/rwNDXkp2f/5WGZz+wew8qcXowx1/8BekGDzlfORGGcSj0wp8DQp",
   "rSNBTAA4CdHtSXzUfb47806KqRpnLxUuPzWs1jI4TlVv05OH1LAOC7zEAC8Psocn6FIer41zuW2xx/fqgISCMPupTFXlaF",
   "50p2ILj3UE4nPh2hSGfWWLNFCON1TGR64MrM+VWo++WG+QIzBEuCNPIqDb9v1mUvCqNfOZ8rXPpRdLPa0nLrrQ9M1nPN+p",
   "ppqG0GmpONgRmXD7aqijT9VAUTg6v/96PYXENlqsr6DunmiZw3Ta7Y7frKPkB/NHzwD2YNj+6EDCIoZsWdYzUd0L4Oaewb",
   "4jJjQnwvuo6BpgKhZLi5lCMe5nYbkGG+OO2UtURoMdTxXCt1kgtyQee2ECoaHOD7C3gZgsVDqVHlajAwFYPUn7joqsaS9O",
   "88Yu8pJMHf29/15KoJkmlW0o2aMCE9YJ4arLmKow+SufjcD8eBseD6bFf1E2tOh8WpZdVJbAoouItyn8o3uMgC/bBOmB3u",
   "W3bLi54zWhpvM6FiJ9gUdTdmuGZUbgJ66FzYsPsYHj4t3NFTpTpOvOZoDPE4mbVnMnd9/hw9V4ia7NnelJMeyaEUeCiRnE",
   "BJRhpEl1+sYPD9UWoYIzLj8O7b4CX9Hdz7jkM32HuhxqrFdlXvPKjgKu8uRFtM+NraswV13mGzg9wmbf1fhQ9f/f8w11j7",
   "rb1QMu91DgsTTplGDFWswMEiSuWllI/ruWzURXBK+Pnr/SAjjU46u63i7j/Lt1C9HMEiknEN2HCKqc31pH7Q9Be1hQg8v2",
   "03E5uK7gF59H9+eYqywBNohGIKPDow9mR8CnpoNHcHMFSSLE7l62G2jwIT/wDq8lbQOmxoFi3jIwe3XZ0KHB7xklNqa3zw",
   "FlsxgB8yvoCBhVvIKLILJs7D0Gr3AYSmp07nz7n/DWVV0xsq3m1KvvWjGwu9X8SNTAzbQIB9HOQ+78Y0/fPp6YQsakomnY",
   "DDrqCUaSegy7Oe9X5xBcb1wOOvVL+mT9W6is/BBICx8RiFT1GIn4pl14AqLjSCaKXxtPofg1ByG+wlHpbqqnQbhCfTC4Da",
   "NXSXgd2Ij8PigmPshH6TGwqV9jvN4iR5QDdJ7LhWRfAuy5/t0kyKWVduc8jhw5yF1t0/cyMW+tQfopLaEaBDIQ10dCPmEs",
   "A8SXPMfXHEODBOCWrjj67uQ1UqqcZzwwAlsBfk3Gnt3gM4zwFaMSqYvqy6yVDgrE0qtqWnNaep2fhM9u+528LGMAzgqSQr",
   "vI4QyKXbORGcobhyJzYAWXauhleh8dl9WGeEKZ9StLPfFfI36+zqHFpzfVTelC98SHa/Ba5kmNo/0RVHwbe3zO0I8XcEF6",
   "bUrDC0Ekxik/4TyoDicJquysxgnc1K0SxkOIkDPhBpBEwhBoIvFw30TBmvIo5t1eVb6IboclL9hzZvMU/HTm0xFbbafT2L",
   "np0rrk9KkUj2fW7UzOL+u3XRFNh2nRVepclbd3cbTo3v/lLQlNg9w5Ewt6sE5MhyoGA3xNf0uWbyXNPdceEHCkJf4eU0sC",
   "sakmu/+QkEv6EPwbN1Yus4P4yJZRwqsuX/pM+3YO5+JIbtgWAfkZav6bX4HIdrNT/k075YGxONB4/YwX9h/Lqit1uAqQxh",
   "s89BNR2+g5ehE00uYe9ZJKfCE5cKItTmbXbCgpyEcE7jsxQUXf/4GiUIuz3BZTd7r8OvjWKm+bTjWs5C17m4Csk9wpU3qQ",
   "1JOsqKaUyU1F9bgVFFitgzA9dodgLXK/PNE0D0uV7Ol4c2Kf2yKE+EZP4pYs1/rLy9vNCw7sIlSGnHpJlWOjJUi/zsXA80",
   "grSIuUQRR7VHW08KnHDck36bHhcKi5Z5uCcTH28CsioGaXfkdlI0rdwp93L9slbgNtrG4XMrfjn6GrUGSLaoEDsklqtROV",
   "Uu0VlgY1Wrook3xBKTLchQraP/y+Um0c1Xn75Hzstvyz7brE2dBKi65IEqlK/EipNPbN8xNgl+u2aPDgcCd8sqzfjXpC3O",
   "j7s+2iFUkXpm09n21VcZpPktbiThFzDHpLZle36hdB9dyVE/yeKY3UPeFDVSekPU03o8ZD9f2GdZ2iYHSgID7M2NjHB4kF",
   "3XxvULNoFcrPJ4WDGpcSO1v0jkMBKzHp3Qk17Y7myFdavqoLYtVKXQw/XSsdxjrvLYxb/ofI8U2xW2R1S+BC70Cu3WuGrG",
   "my6qRQGXdh0dJyDDpgRiupPlKcczmjfytskU2Op/sCJiFgm5A5U2Us7vTWn4xmhoCiXpygn1eOSqI3IXPk5szOxqDTFBsR",
   "ErixY9JijLMD8vfvY60MdIBNypKS76qpH82LsYDUBLMPClHToLx2t6yhXBvdCbPBBaXInGzJ5jqL15IA+petKZx5uvBNoT",
   "HujyqIyiMWW8Xj9IzPY5GxdOKUzoVOTyWXBB4zBN0K96wrfhzP+jyOxPAr3Tzw7UjS7AhSBGzW1L6fdAkqtLdCVYrKjnXB",
   "di3u4wYYiLmFlJjPsQaUWk8brlmHE4RWnYQqTiY5rQ6ZjenXGsXNg9zLrWsXxLhF0ijB6oyI2+8pSCIE3LEd5Z01YgrYPD",
   "+PHSUM1leRgx+vgNwUm1ovnsfxi8spOqYW19kYRIBoScdAVQKipEYqmeeaXwQVPOJWLZrD4M+59gnoII351mNgB7xZQqbL",
   "Z/IZXhtzae7se43uKa+XpIWd8IemG8kD0GYhLED2qjS/7+4CNqvIftSrnsDiyqRZv38P0avhkKatAqs4w8RCsEJs2N+L9q",
   "pEk2+vLA3ECidJYvqylyGWzAoo8KgqITr+55lvvx630U1ZYzijBVJ6bPsfMXk344McpS0cTU+cVNfJ8k2xchP+8xWBNaUn",
   "g04ZeWU8CIoRzTyNGV1WdrJXXeC8b+ETmNDYd/iPsnSo89NYIfXfa2DT2he/NXpKPHCHVunSwMuJNdNPIM4BmneuDVXgVA",
   "wuUTe0ZT9/nLyTqARLey6jUpBnKfB6owRFTiyGX2LQKwBkLFJz4u958flF4gZBnW1h30Q93KC+d56osOanXm4Y+xP1RMiW",
   "feDt2GbIlNm9I40juAxVoz9pVYnOS3dST9p107tlRVdZrbqmySMQMmAm8HbJ1/3lSUYqD7xs0NMv2QQNhdlwa27CbI2nrk",
   "HcKlCMmWiOIBsWBbWHQ292MFx/a/JR0AEzb5buoFlM3RySb4y3SPPqBDeKitQyhV/aXijvbs2ppl5yV9xZjStOtRKZAO0S",
   "NhpxT53KUyFiYGLSnmpBtaFOdOXATv0gQXGgOarVGI84aVboxRg+6QrCAGf68/7xsTEpzvSi6sNFBBbDrJ9tAJvfB/2XFM",
   "lYsjRWGGNCWMPcGQfTaS7BzhpGK9yjiLVQXoMLwj5naFjpth5qONq3ihFNOY7m1/QB31IWaSauYGTAUaZ2/H4xaGm/7Jpi",
   "gNlJwQxMcJNd8RlG7QIPeckz1n7y+Ilfr+w1cWo/E682Bnh+Sml9UmPX0V8hcvhLmO9Z8FWmfZ4L+Fq0Y+97OEOyqa6Jtr",
   "zWV7UNTM7wHp903TlpDKwkKx1h7j9xUAKC7ziYhDd+MucTBLg1gdd2yL1JxtIGOSbXTZPHVpQD14ptFx3ipYlvM9R5fuFP",
   "mS4cX6Qn3kS4eMWw+It/5hI1fcqZ7nIffsnx9qIZ9odIAj/zM1cHKJ7rTTT+pw5mbymf8I61yuJ94cpDhI/j9gh/D5xUJu",
   "W0fADTA6Kc5zcs57bOmSh7mt/n2/hgdeOXK2++s7jZzaCKVq8goBTaJaC/o4n7xxdIpOZRxbNFuu8lsetyuvPg3Jaxt3Lb",
   "K67xFEA5K2282N239hzfvYZg64bCZFVPXsyurqsZacJxuwfoUe9osa1PLVrA1k44KmIS30+X4JNiMJ8kLTanVdxAMFUDri",
   "cONMQlhOP7mzWzg0a3HL7F033OBOWV8VryBRdNBG2gwt9JjlVEinj/2Z+ucDI+KDId07zC1JaVWe3qy2JrZNBqYll79nmi",
   "5eLdvDF3LjpYUFgdlAXv9BcyLsdEi0YtcTpAoECndInPWaQsieEEx7SPz5JXfmc027aYowLtXlF7czguz+uyTijZQZgg/g",
   "9wosy0iw6vcg6tkNNDNmN8+PYwe1If2Rib0mMGHnhk26zTwfVEfuY6jaJB/IbNtr0wkcEOx2Ogz8gaXbFrczjmhlhvZTjK",
   "n4mP3L0a8SWLpFXgOrskWsNWqdrfiCicaGBj2s6TnPSQKtn61QSAwTiWaPmAvHaX+mRpW3UWoS52QfJkfUtjfa0rs9Q8UX",
   "J6GeeLBm89nuy57ML8iBGPJcI0JKb27ZkHaayWbYXyjaMb8l/0WaefSloBIr4NqrNmOP/Vc6ggLuYJ/uheuyY6SltZXoWU",
   "N0Mzbj5rvOpycZPWroXaKc5n91B6R//62/7ZG3DuUKDhcBy5hypI4F3EcKkeYf+5I+tkgqmRXxddcovAFVqrpGGaRAjonA",
   "RWsB1ctH3BitvYuq/CQj5IDtJcaczSnRlXLcKVwwR6gOIWYwylq9qHNbn2Y7X3Rob1GVTnC2SONzElTGknW/aOsxaa6WYv",
   "x2//PoAqzFIQW4eFwWeBFxQNI3YnCYpHPNuEjZ4+uEDbykwS0bczTd+tQFSsVtasS3oE+AYBC6wykcw4VXzGdyt6RVErz8",
   "T8EB74O6FcoxI9NwvtVKvFCFeRtIZay03k6ZatzMqIVryVO++8K6GAFyZjqq6RuCSe+XQ5sK6smTJu1aYFCV3Udpc1JvLx",
   "w8QIPhvduvYSu3pRxan/Z/qaIKF/h/l5we2YOk5xvAKou1jRj/w3geW0t3GOE4F3orOPFngO2Qwn5kvaskcx7gyv+OSjjB",
   "bmdPZC7ErPXiWscdi3S2R4T3k4jB5OuTYizKWkCMwso74ppIMRCvma7jtKJVpVewGC9QKf68EiPmDfxpGF8wKT7lVgMbLg",
   "siO7m5xzfTlWJE9A5C33U/j36wFjasLvbSA2wu2Nf2Ag6WNrlJ/6MzMwfVwhvuzDt9SmzCLLxSosKG9pC7ATelO/5NOKYM",
   "Yaj1jdmK2wOVwyxOAdbp0NLtMcXsxBIhlkruU5Df4xU+kJN6m6OsJ1/XQl71HlzzgdrHM229bxtmDBWYd/m1RtmcRMKQKY",
   "SdDypsikwAUOgHgtBVOXK+c8ZVhqV7/9uHHsZga63FI5FxjwX/wdd5p9p+B5opdhtv3pXcPkS/YL7kNkRitWjlihACR3FW",
   "qlLlgnhfFUsNI0azB7KDEBSV2P0/6Hf6yiGSdsowXF/xagel5F6dIhOf8wCWRLmRxHQtQZzfrAbNZiZUD2GE25VXD7iE8n",
   "4TUNn/wZiuQozQl1UKseKWFTf6QZm5GFpT7oQHtSBI6kx1/jvUAB2dzojFu20deMnNP8UawreHFIiJIr07PATe5XFBsrXh",
   "2S2KGDFXu/Vt6ugDgV9M0hUUZ8YxH8I5ArlZsdKCf8RBPUYmHGH2NXW2j2mW/6cSDnACfDByVr5iu3EY7RT0BADaI7UxBr",
   "LLvQxodQx58rNLGrw0a0Lj/Z5wV2PNlblNnNnVzzrkhOe7OlcJ2ta5V+agMBGTrcS/ddz4r2GamEulT/wOI1QXBJVYS+iv",
   "yGYfCvDKgSqzhr/dRAnbGQ7GVdzHaH3UoqyKa6aDhvppQp8FnmDH5jo2f3cWs2g9ichyleo9WXPS8012LqrzMzy9Lus2Mk",
   "o1jqag/127hdnu1NhpOOM3C0MzQRCapojxApLjcTIjqrjyhfHapOF1i8DNdy7lU3AIS7Z4oQ7YF4vNgMt1K8Exicap0kH3",
   "Prtlhn4ZLRfenqQGiF/kp34a/cuRfv3fnQELQ4N7/qWBQeT6g3AoGNf+/LWhiES+NE/yPWnE3tXMf0qUuczoYTOfTEc7QA",
   "qHN0CPlV2IMto4KImBvbYHlwH+grnq+9SQW1weJ7FD1m+3JivxrgDd44XEcoZqpaHuyLvfanb2MPs8w+5CDRTduiigN6ON",
   "LRcbSRTSf2q20LCYDtohD3CJZ1XIPC6tfWpgtUEB8pHjCp5MZRazNIjA/wdFxmghcOKQhx2T2gOA7VSlBIrHRDDvCNsyU5",
   "+4RoRn/QVnSCtR7BhKU9hXavMUWk3wREfC5qBKPa4iuNQfysc8pgZG3E01ptrxgDLuQpnOz4Wh57MZmfEEDWZOEn9imM5b",
   "mXCY/coZKDCy9sbmq/itSTrb4TqVnMeqH4DyunBTwujsiVa/LOBZu+JH1+1bKfcq53o2w5QU5Pgrgg8NSwvf4QyIbR8/Au",
   "Q9aB4zAK6zD6/PabvqoPaNikweaAX34+QWv5z0FDx+18q3dHU+DDuGTkaHLnoVW4b8zbiTUdJY2qLyRr+ru1SwJBpma+t0",
   "oyr4SEMV8EG7TC2L6HZPH8ep2b6J1qW5h6j0vhoDwYtpz6fEdDWxgrjrE9uOct0NnWb83II5WSsumpduOr5y1oPcJw0iu/",
   "6k5TsTk/TtQy5BZiieM3LyABEsfH6PFv7/TYWJpAlRQD6HpZ6yWmfBiFTOktaKz0ToFQQd3gH4v60ShWAGCxB6Qh4vU6Yg",
   "QIXhBaAvn1isKWW6zpLvSSgKw5vXBrgwoJHDdlzd/K2x7q+q1m7wmPZ6+fdedf8orlTpI1WbVJiEum6I/J5R32GC0pIwAv",
   "af0w5kpI1/lD+S2Pjlb285TEchXR1NvdzzDlA8A6FP2Q+mu4QhyLp+Llf4W6+jWIDbdH94bLVZGOgM2FtkckRyN+FCX6jv",
   "2vxqseL7nIM7bVrJvM/QT6UXKUQJgPfTb+FW2KBu0xrRVYiRrigm+sSoeEuZx2pBRRLW+o2XqVLzpM2FANmiLQbBfFMy0x",
   "6GxIJ6qihyH/XqIkX6mxAsvaBrv6qX2uWDmehO0PmkQ9m7tWcR8Ldk5MXRdSRR9JXA4wpSU4qJbYin/zaDJ8/XSrfp+PDr",
   "XkKPi6rvIVCXvf2DNFbDeCWWmkE3igZs7of/a8DymtnKpl0FokMrsdL65dRb2PXWF8AREHwMb73NqFwFCi2qKagU4kIWq3",
   "P7S5OcvucGLc48lV5COAdTUShaaMO9KRyge2sBUNEi1SZTYzrGXWRBlfCVc/ztnr7s8nvlDzs5Fop1ix4ETEdG3r3YDnQy",
   "lzIbHBLvkg253bfeCZuGH43D+UXA0/jhah6Y8Au4CekX5ztvnzWUZMTnIBvJCtbK0Vnlat4FzMod8aj9B84IDAakvwi6oR",
   "/psog7Ge0/+VE8mWiRTaZNgzNzID8rp4RON1WSNa1rSe9awF/DQgPIpwfVbNODO7uoWT0pYUC/TaPqwKLD5UiJqOFFl9Yf",
   "eNculBI9CDjBTPunWfyOSqoiLT1OjXoqXYe6Z7H2jkcAOoC3mprWU8J2BH1YFdkig0Db/I6clWVpPzAjhYoKQWgr1lQO4F",
   "FyQ902AkHSIt6iRTlIF0xIq9QmbuDld8/KY//Z87GGZb4RL4FAU+yEaoZMoxMDl/O/+CzoMj/MUH2C3t8kl4LUnzpg/Yqm",
   "TGlqzYirm678oU6/bprk8QGm00nWMfcI93cGEXCWwn52E2UwDdYayoROY8dUZSzBtTSZHJBLm88LwATBLXZCUNtjiNzELt",
   "U8A2giiXEQjPy2CzEFauud6t9xTIO4dgWq41XtFgCHVLL3/NhvSR2XctHM5yFLwwpwotpF55Oe+R1UXdWOfm/7noPZXU2N",
   "LdSIanVQucgi3F6OWsiBk14s9sGNh7lZa9j/aLDzIRz5wg4JyQnu+IcQjXPQBW5cdLScE5vN/6WzYhvikAQh5m4E0nuyZv",
   "LM5OaQqtg8OlYVhfHtPyMavd3E9BFSc7KNwrtCPK3RpY+VvfZkk6PhPIA3EpK3G8JtGkL2OWToQairph/x3Bf94c5JNeaz",
   "U6ztFE8h6JrusdF66m8n6MlF8SPL//4M+RWg0tHsl1p+VkScI31E/qQfaM0fa58Qj3XVpirh/8mbeuY4eCbSsvNxcjKvPK",
   "7UcycHSRcEIRoNHSf6WOexB5CQymNl38nopFfC4y+vIi2YmA4/e7++8uYbrEp0YFTMVdcLyO5hJyFhlYw3nvuMw6reTr9A",
   "MHX7kxWwxb37umyHxD85+h42VGWzC4GNUrCzRVkOMZ3Uqru1l1QAyxTscGLNRchNqvIpSFgVKil6s3gpaMB9NNY3131h84",
   "zJLRDmWj1T9zOlvBnimHoXPb6Z22TzyFDXN1OHPp++4oqvXIwRP/zLEfgzaHPwLApwjvO+V8d+1conc2afhN6T1ync07e0",
   "l7LfrozvzIOstliWHdzjI5RRjgEiLL+H0r5xg6jv1/EEgGFh7JYlCHf496yplwxXlFC1Uc5IHEFiEki419OegXTHL17iir",
   "3WZyM3BQHmH6kVG9z8zcJCUr+gYosAtshjaF0sS1ndMd+iC4K2mzZUt04dOGjAZ7fJDLgVugEQUHAuNxNq4KyKlCHV2NGy",
   "DCtObFdTlJYWiF2dAfkRaqG7tkDrOdZwo8OPi/+8SgBDb4rsks/327Dr1ttGwGRfl22GMeHwy2hAE0EbkeV8FilscnNheN",
   "5SXaDLw854/44plgCVX/PRMCLH9mOgRKi/FNwiHFpnFoblRExUHR/riuwwOAOlPllH0mTiaCsAGaI/lTshnt1enR1r8UMM",
   "GO3h0PINeiDSmRe7fDLAt/rbo5glf/fb2t3q+sBTzgg8twRImCNZa4zJKQlxWG1H1xQFDyQ1MzFKh9CiMcFfkHYYCbSP0u",
   "mk9conegnCced9iyTVw3ItJFnRrFnJHGz8SSMxMyBgIMNaePHGVxijnLuk6SN2HcLAZ95/CsUkxLGuFre+TzSixRzBcU6l",
   "OzC8KfXE/6jJLypeScp0slTSSNJuRFSza7cWv6c/H0Yhmv2Jodsv8JmQ+BpBIaNbtTfzo4fQ8kheqG6o46PV3oCpy6vT7o",
   "7U2wPDli9cMbHXoNDBLkvquQjetyftxUVzjJY7UJNMDbNjxn8mGteX0t6QYwkSyjNqnMbIczQZi5pOCz8lHFxdVCYjWpaU",
   "cw5Xv795Ig9SXbSgPBz/Zk3YARNwaWfOnYS5dS4b7OcuZRWkikJZ8Cqk1s44D4XgxNAFlnQ6BIspk+40OBn/JnfAWSSJ78",
   "naG94CsNXMzL9k9bY/nlVrqM0C4O6i+mxx2Qv/2JCQ30sdQaGG7O1pUGz4NJ8QAupEkQEhWCTN1C9tm+17N+wB3KCix/zD",
   "Ir/edVDZ1kmw59at2HcT/VN7Wt2+4xbs6MORkFL83E8QpdCfTeusNMIrsC+gLlvhBcFryuRzzwtEokB0wd0+3m8BlRdPVb",
   "QIR2pPqmpdPqqPGyPtlW1nQw9KohAjZESh2WAVvkd5imjXVszj91gxn7of+fdors+8kkR3Pylwr/i1tawYrprcJUybqxLo",
   "sMe5OPBIi+jzinE1Mpq+/g82TcM18xpyaz8vFjuyGVtolPYUsC8gHq20338GP5CTtJoKsYYOf4WRLWIV8cvVd6fWVMCORC",
   "7j7Pum223ayB4QqwkNNL+s5sW+d7Kz6LwqWLmYRAFNZVUZ2ZlOcfdlyN15sW+dvO8cnyULXCdPFt6xLuHjL9sudDiTPn3i",
   "8RBztaTm/Gg9qub9zwPpPFBfKX+hb/B8JifTG4XSF/ME8ku53JuUdj4dlCjC48j2kCKIzB8ht6dku0gVR2g3rpgS0Mawb6",
   "1uumYTDkPU8iGwPugc+LpNsJ61LfL06t1S4ysAA83Cf4/Xs7gZvyIh0GKivBgIqcxxMTcGbxyl4MgTvgTykxmu2cuwFRZa",
   "olFUgY8Vmrstm/R6W8ZdmfmlH00BJD5YqXOQTmrfJpasEEmatsOE+fftqmIscSLNLzMIvxNYHsleLH2Uz5K4lHWBLo/9XT",
   "R8rh02MDJspUkDkNhunN98z4IGKs0SSKeuiKYy3zwjXYpDIylXDzjrAfLaslILH9H+3pkNf6F0KMtqw7Q6xURNXmfngpjx",
   "VcQ3tA1CVOfACOkIO/nr7i5y4o8PlSgxg9WrtSjw0Gs1VyTWh+1JI78N7kKcRg4eOJ8DFUuUdxyRpuvTNgPOk4tDbUx17S",
   "ut+HovtcB/Mdd1ksm+wPKSOvzgeJGiPhaOogrrsKjJ1gKP6nZ0/MPPzI4P7pLZNQQJZseJ3T0IdXG1hvG73Km7efaJLoS0",
   "JMdh39xndMAEsJotbPMAJ4dJwSAhwmY7nUaX3+se39djmmTNRWc01fqF8/SlAyttvQZubZzKNiZBKiBesT4knO+tmJxWfF",
   "RZorBwMMCoj+5Xqki/eaJwviA+s1FBllQYQdNuYlRt9ETwv0q1GtWyvS12C4jC3c4i6AmaK5lpMNF+md50tFWOx8dR3Ptz",
   "f07INqzvIcFf3HlLCcTUOwkQSaKoxCbhf1aJKGJqqkJhru9w2K/IbScnJ4lBAsVPPiWTzIm8WVuuirtsWitSD7B1z4exlZ",
   "QAwwauDvkGsDB9xcnRlvxvqu5m3OgiDwAz7KUL0RA6I1cL/x/N2NVEgaRUu5ECB1Y2MqPZuygciWRVESKxiV5nZYRp3+gM",
   "9p5S5IyjTuLBjL1wty5J8U+E1Qmebc93Qa0i6jauZomfwrGm+25opFzCNC7rsLG4spig93VoDL7Do7X9nutYWmmy5iccNg",
   "5UBKXGCpLIXrTOrh4S3/yokitnDqg8j+R3oGZ+s/4Kmb2wLLSoAFSr4qjgLCoDULUCghQIF/SihQbB2lc2sUcYuPP+pI+W",
   "sveQKKXy2PW3hYDNxSExL1hm71CBLCJEL4Wfvldcm3trUV2Vv2DvmoIjW3JhifbZoxfrdcFS/i/LnzpoU5vn0y93tTAmGo",
   "IQuobBS98W+VK16G8BrzaBj6znOcwZNfNgBtl1Hb0ecVqg69uIW3+S1OBd/D+OkmqLwKYkPoZWNpUc9nUyagi2ZO6JzsIM",
   "ePpHRkPZ2HzRT8KToVTG3+HT/RbAfx/BvnhwOfeUZMZT/IIZholzcVE1Iz6yzYSjTrpUv4Dm/apEH/rWzCbdta3QiDT4ge",
   "8zNsT/a+2o/+0GqcjY1o5lF1+p2kyVJPT73ZPP2Sjua01ceF/ClrVaplcn4SuBbEq3Vtza/UHG3icjdT7A1quJJQcc4SXd",
   "KCe6xm8LFIn9kxbg6D3czk2pjtUPjQPVO2TPV2fIGAaqU671kfWXyUYwMt2X6++L+eM9olvQCKL5c0bHEGgzlccdDqOqGc",
   "mWepkObudyZNrBHT0V/tfJdAgmQf/W0IKlfUUQifMjXn4JrQv/h4Wlo55IMHUchmhxr+gOBbSEhbplGVEKSbWz8mNxLZ5J",
   "ib0M+3159Mdn+Sa6TaHdTmOhlE+L7FofxIcCWN6Zt2DI+g4MwER/Ioe3v1kVUTzAkPB8UcrxvhZlrdBE1r7t11P2AFHIXj",
   "s/eLMs4pCzjRJ2M7xWNd4xsBSZzJr8Q0PUOFh8E4EBv7U9T5zAZx+a3sPqv7ZEfI3HNQPHgwDgdSddo0kT5+AmUVn32jn+",
   "/OgVOpznqWoPHRenYJaTN7RCYXCHj8j9mOCiKoPen3ENZBSw4DBTHcuPYtbCL9q7LW/hUoSDFgwFQcWkDzDqmLmnmkZEqV",
   "RuALimGT3oROkiLyrlAWCZUY8shWE/asAo3KF/PLHeTM0j73+mGuQqTrVbatILlyNqNFrETeBAtu0Ytx3gX9qoPRPjJRaj",
   "dHHc8QmNBw4mYy4nvkVjsTQTrXjl+vm9ezZqb1cFec5cPwAYJAEtrz6LephS9bE+F07CsRLhIOtnDhtFHVHopoObc2XuNO",
   "wS2oEGo4jpIG/5sITxLOTGSPim82CtwHilS9dd4hmFpMhdtVsCEVPsSUlybrO+LQNG6Gl2+h6w0IzvyhOBPFo/CxPPvT2c",
   "zftVb1QQUQ5L0duVSIqZmuIMS2/rCloms8VaHSUNkwxsljOh+PC1uXGTc448AdPD2TyQV+lWG5H+BKm49PrjL2EquYgEJV",
   "v3ConiirRHHsyO25r1icEDdadqa/wiClFHXG7DGc5oIDO+GGhue47WsQ0wuQJsQB2/1Rs0DwvYT9sjp0FoS5UTNbSO8NfU",
   "k6NkOs7Y9QDmdygPwLub48e818UgVeHZi7JOy0gdDlNwID3g4gza5dpF5HpfE7DohdsSqjh8kRBdPCvg7w8KRsBZtRssjN",
   "fWoQ0dQZRKUEtl0p2eY+U8J/neUrYh0PGGUJJ/BKjNHPPkmAXSaapS8rjJ7OntWIPH1mRPb0gYkRdyj39bbQFJgU8pY6Di",
   "InN5XyOKYJhTaoJrmXM3BXZRWwb9SoEVRx2QIbl8WAZ+/tMyqaYAWkXwvtyt4oLxi0uU/VWmxGmCGT27p34ReRHrINUAtb",
   "JQOCihrBmqYd5MGEgM104vAZcGObS/Fbzgc3kwyqqWwoL/FyJh7YK/Mymfc73EGbd9Q2IMmQpvXb2DDQazycWeIfrJRR6m",
   "aggVIIXsUf2q6GAau/AZLkkJ5ToGRBJI++mx7GAJUcGo+2dkvMkWKQ/Q5wkBFXukhsxJylDCp8pH7S0gz862x8tUIzzF4S",
   "YHf8xsgMrtoYLtNkNbuGoRCfa8JSkjmELwtoXTKS/udn/oBfW/T/5wDqYZsXMHvaNcILfVyZ6zO38Ka1UqYztjRPW+Aa9h",
   "tvILcyPsJcvdgoQ9v2ww7bE3IdcuGHmQp8h5fdpCps5wNTkiUalM6+yKNfYgI7fWKK2AHmdmwvzw2oegBBATfWZhjWrHcm",
   "0LXV9sGRy5VXo0j0XPy1/Hg7zJ5a7iN8Ut7X81lKS/HBwkFC7H52Ut2P/U5PbhLSHwSZKOupLHB25FoT9SmHh1IoTNiCTC",
   "37yuuE48BKcIEG2BK/eSRNvOHN4Q+yEdtbfIYBdQbyvApbuBc9Vp64xJSHVIrUnPS7jqdF8QkUYb2ShOm9RlGoIt7jJuum",
   "YBUBo8vHc6R5+WYbImJB/JNLtsLPiKM2ETyv/bNgzZxP/TaoHTq6MJaFRzbBwvi99aqiFwhRVJsF2pavH+10LG48cj18GF",
   "kdT11VmeWilhS9S9NHC8vPiQ9bChvMJvM2ibIDfjfBDnASM8FbGGN0u9UidBORmVi0fvCsPf7QGWADjiHd60qaGvwvkLJI",
   "ts2ouF0eP8b3MHR+OWCfWufKfMOdpwVoBPhv4GFylAbidAlrqICjdjGZDx5kUjbj94C+ePvW7RE6sXTJSuM4FZ1E709rFt",
   "oNNHhZi5YOBMfM+k2qn2fXsmG6rmxmNR9gLOLoQ0ZENG9gRnSGJ9avXaIltTklp4Zw7DzEGdBvNxW1BxN+zeIuxjREVHL/",
   "QedbyuG9HgYWlIb+QtgI3T38wKoFAU5J2ArJseC8HaVbdgAf2m1Oqu5cVMu26dtLHVEAvP1Exe7F4ANDkpAj/Cin7VsuIB",
   "ngxz32ttteMz97lpqNgllYqRraQGAav+w2J9iqMDwfEbVci6YthOYIrJ1wQdvsSjW6BdwhQwJME50zGLgIuY/1khIpMfcs",
   "GoKXsKDG+8m5pHLyCyVEwDiGmCFm8IU3xV42RfLS+ApqPbhKPlJyjQfPT/gifANAOq0w8/qCqGRTJPisT6C+cCNT4/3d2o",
   "1nXEy0sfkGRHKtlgAlRo06ahj8UmlJm/txnmL5lRNoo0IjFVFnyJHh+NSR0BnLFg1zNPDXYDhnoiLOzambLS14/4n32Gm7",
   "KjQUufI5EJJ8xHQl0JQ8Zt50V9rsCFL2G/P0MsxIoWEXK0CChDs4BXOYKeOoUQMoPBo2VloQWGSSD1VDbtjeYwUX3+v2AR",
   "eVVclCBfVwNz8W+X/MzVLYe0D9ezH1bKMi63oTV+MuqiojzOXMgMyv6OWJ6ThVhIl4oN+sv64A49bXsGHgYPWr8sHYecbF",
   "Xu/90m/JsWA6VXHxhQUs3yGWUtDmkI6Wpf8T4ne36GtDDv3dX1FgrjKp3+mr2FVtdHS1cYEkS0r8GZ5CRj8FB7cJBj72w2",
   "3Zy3lWuhEfDgklziQb4TpVvlmd/KWWJjgeFDx1vb9L/Rla7Pk1QepOcfLR8m2thbDrqJy2Le/9sjkgpUwublD5CsETWkng",
   "z2Qmtiedefk3F8h5I3xzraE1VDemGtQO+S74+uBI4y9lBQLWTXcTJylhdkDlxIeVS6k+SccEaHfdPnAtJUIGspBxr7EuJ0",
   "JBeHwYOSpVaFlVNUvXEK/4N16swOpXVNU3RVF18wI1ejRLeyaZUmFFGuEcmH/iSTmgl8mT4lz/mubkj9SO3GSwLbv/W9yQ",
   "T5tophn7vT2NrcHG0Ctr+s0NNnnisOuA6y3GrY0bgYVGHXM8139tdCu6bk7tw62y2iQynpcfbVI2/CJ18seI+BjOZgh8FH",
   "G32WPhyYPhuvd1xM1irOd5yKE9/+TSigcCQjk9Yn1jyzKUKheCF8mNj/NuRbVeHD5QCd1HZCwjRLBR8M20OiL9+AozgzWm",
   "OMJXb8PVa+1cX8texL6Gy+Yb8QXwWZECvqPEYGr+KZcdQHUWL+ZWQ7iH6Ghs86Dc3KFu92ic/7jtOUuKUz4Wp6GHuGMVIz",
   "EH51rfXmyAWwlu1KNngYMcE7aUyJqxLdRa41BccpjtrgX0C0yXtyOFC+YwZ2znFWSHY/uykrQokoPDITZeFcK/5kNvwGcD",
   "7yGatgmKzuJvmBKaNLXmbL6UZXqvjytIQwx/16BYGTolm5+wy8hL/iSuABNbu+PTG30qPlROtO6iMhgGGSrERVF1KJiRYH",
   "drzJjoaTvTZ/YGO0pLOx9RYXAlyKzptuapyJo17qNsas55XI8TEaCMI6IjYyB7hM4v9tsm/CyxTbSdJM+Wkc0AaHV0sZuN",
   "xGNE9w/jh2AC29hE7JurPoNHGD1X9t2aImnLVc86Mbl2MsRyH4uEyhF2+OEZnm+oddG3t3aglBiOm8FFK5dvkbobEs5UKp",
   "SxEvybmzPNkTAbAORWzvKShLwn19TqG6JJ/qvVYfyoOY3crroJ8ifjG1twn4V616eWgIVs0TYCtE/CrzO6QbVDabbfKqEZ",
   "zcZbTN5gDT8wsXGUpNSrtFiUm9VirBQ8/47zF+aWALkcuIYkdG2YEkyBrD8jijI2gZoeFfrWSi6jrY/5mYkCGKP+uG2LRi",
   "eWt80CW5iYOOuJTAZZbKGE9Fpy1fQixM4lJUhQxPskeDXSNsNBm0jMBUWJ+JhE3tRNJG7gLO25TrGLJM79ZQTiLsivqEY0",
   "Nat58c+yZwlAphJZenP5NV5Ea5GIxKIgLcAT/DG6StqEeEcyt8C5U2mHWFTGuvWS4jKTnGacjG2kn09gQacE7aj8wgRvqj",
   "AiwWQe7eCkh6OEbNCU+9YocSuUpsXdXmYS2ByhVTjUgQCRSSaTPZV3YWt3Jvk+BkQ34e6J/X8j2uGiiSOlc5o62mb+SSP4",
   "ld4lid4D/oD8oyew4ZZCOgvaOg6eNy6yUNwthI51oy6QYBTiZX7HRp4dDSQFzP0M+Kcj5pNLE6u6JI1yBL/RAveopzXjeh",
   "8DVILNJVBWjTR3gTGsnwkTwGSjnyZ7IdfeBcAND/JT3VSogyU/ReZTCXvIXWmvs5HNB1+yN7UY23w4gFxwEnO8R938sd3U",
   "8e4zwVHknvpQyWUl1JDEhcHISbW4CpFnMvVSdNxGLqoUTeRc6peq3fVnklntIS+DR8HznQt/orfInEM6wmdUg9/x+UkioQ",
   "HyPNy99k61eH9xEft2O1SSvBWSEHvrbRKssbGsi0xBhm0vU6xrt5RGB9jRl7viDr+Q84PSU5FxsVPYmfdvABljg91ihB4K",
   "7PUVRR12USln1TME+38jnthVLMKNXhzbSsDZxn/epBJGj8fQBnKcHhYwWljVEXGqHqlfDfC4oucBB2ZZSkknIJaI00qYjO",
   "c3XoQxAHcBfDnchR+zIev/GqBnjvlf8W2H/TiETpBhtVbzZT2d1Akvpy+AbeBzRzPvKm+epnWbO/dkT1c2DbDobe2/cAji",
   "uiPyCSfnXEfGBJhQi2jCMXMTVcfWxNPpNRpl+QqLl85ddQXUuEaTUqdJrwpcgsTqr8M+HbDuVhf9nz5o8zkDjjkblvqQ58",
   "0V18wnbpmzw7OoW+0zOjlMc4W1bd6+q4YruyttcWYA9nAZz9eE524LBoaJBvnYiF95sZN3QSDcFeygO6FTr/q3Le+wZj24",
   "xGmozB/WCOr01xNHSnBTw4yLxkQ8KHS98ErmIYEebS6AOqIcaHXVErJ45bWJUjsthoEe9XFwc3Ol5knvwA9pUZLghWkB7k",
   "vt/E6o0uwZXivVLR6cnOH3twemCEiV8kVS9oJzK3ItV6LEo9JyDATXJx5zlCmgwMo0W17z2AWJXE8joTTN3n+/1A8h58bu",
   "qooXjf4KIj6MYnuZOyKNiRhXttls2sH1j8A3voDy3Up6czHiep8DXxZiyuYTjsgp/fDEE+AVJnX/GK62/MtR6l2H0g3kQs",
   "8Q7n+M9aNOPulUpTMcdz4j1zx/56CnwnJR+qJw7LzyuQWMpzyWdaVBmQw17QsdKZlSenFXRIDgTsVxylEKojy/VZTn4wmS",
   "rZKP1yc1hrn/HiI3705C9K8YZRKnXTPTHNqC26lfWkdS+fuNIFRzRCtRDo8rMPPQR3YqRClTnJeYZT1ZQAR2/ud6Ux5ZWZ",
   "+jzJk++B0zdOIWgyGsC+KMv49by7HhfAEilSEMNV8D4+ZX9jP6GQBbwIsuV/owkgDWPPDzb6HQOnPVNuQ+r+r0G5tLOW/a",
   "VzIqdM6zSUs7aPGCP4qq3CM2Rdv0uiMKxw00Fy/mhnFZVoICTn5cUpOnKQSj60mms8962yxP78MMAhZTnwQJxLSOhMcf2g",
   "aF2q41+mslL+pH7rDMfadzct7R29EA9USP0a6r7aL70mIm0Y0GUi9axxTh3Zpuq2H+1EO5rUjcla2Cdce8N/Xr75thigK2",
   "NtX+e5H4aZRlQWrwxO7OjXt4PefFx60s8s3Oh4kRc741/mb0NUuPstSTE+78oXv1nz7nRSWf1EpDEHiRwWzp8qlLbGQfY+",
   "UpXDR3feykXiydzrkfASjO8LcLq5c/1E2rVIAiT69ZNHSEqgMrzzjOaZ+i0ZrHdbOt8rZa8ZYlCSU//fAWbOuIbLICdch7",
   "x6bXxg7agwnG+g5cxTJIj9Hg3RGxKPAmTDGXTQt1gOqzfF/5p+fGskYiz7cI7885/8HCZeQMetyTQdBQ0Ooi/HDgWFC6Ph",
   "4ej1pkIIUn56Jdi5HhFOYXXpluaXUVGAtukX4cJpAEvsJBN+7akPhuZYmcvb2NZuB7mRfWcxggZ37U77IFrdG3sl8KfKqO",
   "Ay0ta8tKwgIa0eNaxCAXjkD6NJwVtGojWxSEc7OpkOEZYdd92h493GMyk/tRDAl0p4lIH8zMMudUvk4+xRVZ5upqwacOVd",
   "zUAsstiEbTEgsx+3oPkbpBxKgrZH4blA1kkH2s+laDycmP3c4t2y0Nd6ccA/cvXofCkNETdpmPG3lKNVp/HGptyFPZh5bE",
   "l+wBmj+5f/xgcwh49e+BF/9+myvi72Q4jpKF76lqaJ+sXarAaDM1E4UQXySMRDK2uogECPdmQNZiKpATKiLrqfRYj6EV17",
   "pSRSGAn+PWKbp1VFDTV0LJ2FfQY83NNJHEFxIgBsMK+XCqXxgpsb4w33yolNVTMyIAjxsVFNKHP1YPbMIvukj9ixA2jLnH",
   "jTCeEvV2cJyFmMXfrV3M6rgcK4YI9lhdWd7sh/ypGQ2/7B8y8Nc0T68N+GM7Awl9AFZ53Tvd7nY1cR5UUWVeW0l5q3FGIz",
   "QRxTIqk6TJqUXMJFsP7R2Ae6bIyiXHnu3pST4YElRTS5YCQLt3tGFlltjTAp5db2/5G8FUSZ1muKvFOmKSY3zloRqSnSH4",
   "3dfjdlDESIt5GsLitBfLAn1t2qgWrB4LW4IIKKjXpqVXiLL52C5l27tMqjjuVCDCv/4gQ0AoTqjrKAcB0F7mAddk0YunVc",
   "9L+7P4jQU8KvpgeA3YMpP2hWybjmdDnxG/J+ON2A3w1e4DqujMd65HlbaKNQhpBm9zrx8CVFMfLbIZKJPPgd2ahrcAi5HG",
   "YAjBTySrdPumEYPiyiD00jK+5b+uFwmM6ZVtZ52OvRYPC1igv3ZO4QQAMhH4LJRuZRUooVMwZeguckRaALpdcACNJTPPhr",
   "BQdWSC5wv/ur1e4/PVpUDLIXl3ZqQrmQszZvz3qJ/ld0qFxbKK9zDoVl92cav/hxmWC3pK+G6J81BVvI38Udj70hO5Daw6",
   "rmcKUNXCSNp30tz3/hCpi1HP+pUDukRGO3H6OPj8v/JbODWt3CRpr5pTdUdzWtkaY8GD5fSnHYLZkZ/3x88gmxr2w5mZdq",
   "t/MknJWRseFUWyh3UQZPv598mDIv8dsFhZ2cGgN4Jd9erNG1DQwIhGFozmlh2Mkzh9aGqMqNjPd7+k4ZBfVlXAZ2FnEE0K",
   "Ht1TCgJCFivXAa0aojzZqflMLT5Dq+d6jo+x+uEaNms07ZVtwQDXnwuLeGorGBQzgyBJXz9hW2NNYMhbXtK6vk08Rjdjdr",
   "zRCJ4TptsCSkGvJ8ogjUHPhnrceqbsTL6cBmeSYsbWhcSH2XGyPNusw5oj41kfBvQrJpS3QPksSQozvRaCI8MmKH4gvFmg",
   "c3VEqpjqAMF7wzKH0GLtxN5+mqI57PtsP3JbWLiJOIuhDCUs63vwGiD8+4QCiiuuZ8nZoGJoseRNMsochdy4Oac3cFHnNa",
   "FUpAwVBQvI/eQ7XF3BcjyOAT9LwQxunhgX9Elt0ftEi9eP9ydGwa+YzXTAT2s0HUeMjfVdd8QwNogOWW/pSdS7JjuQPzzR",
   "PUIZXmXIWKjImktl3tKgF4Bio9dDKLs+O/0AB3W/LKPTGVOPzVv7rkJFOvyRSmrjauTrm9PpQXQg68MaJsfCo/dHGmrLE+",
   "B4YXEsyTbFwT+SEsUe9tfUwsnPRCG1l8OrHsr6dAlhq1Fpxe0dQm6u3o9Aj6KcqsCz+ARSBE7p9tdgRnXzgkpJiCYgJAje",
   "XFyNV4V6dt0xEk4k1b4bZtOj/9UoLdoEFpzemb72l0bkLJ1iWiT3oQa0a9umkQkSdOuwlADJaZUnCY0J0AmEbNw8+MzceW",
   "amTT3Pp35A4VD4+wrt7FisNgKxP/7PDY1IG2Sg2q6j+7bvAsenEgekPBjOUSA2BXI3q/mfWl1HdSycTJ7E1Wn0NSCfHJWu",
   "B1l6CA16mgaLFovsb6yiBU0M09imxiBsRf3P/toPRRnqtYfoj1/Tav+Hcn+bP8aUOJViU0e0XlMe8iyqWxYqBrlmsQzWII",
   "o9DXiSOKxyBTRQemvKLlG494V+lSAAziU1djl7Rbv4HSV17gl6MP2prbCWh2I/K+Yr7l+73T/oY2yhNGMnTybVLhqTvwsK",
   "Xo3kuA+lZCZM5BwRM81m3WWptizfhs+2JBF7C84vM6AazG3W72vHIr5XtxHJf2GGyx4WC+T3J9RKHVX33XwyWjocNmBg73",
   "ohJw0aQJpP7Uk8l5y2rX8i87Pf37c3CNtagu1r/irOMhGQ2495ChrRo/hPdBmpmD18m/XruphnYwgrHwZAjumB7pV8VUYF",
   "ItcHV13UYiJodBWcWbYf+XOccCIAeaJgRLLJIR/mfExLGT6xMTUklgQJ8rhwzpuQ2Ue9RrjXsNjA95XaiRWLm5roWYeb8M",
   "X8SlboUV8h+13IFDsWT/r3c3SEX7F24UijwvYQncmCw4eR/ayQ+4pESNR5kZOXVXj67LmfLQw5j3LLn8ztWGvhkmJbjrYt",
   "F2i1NyzGmJaUCXskEvUcJbDpTZE6RQ4/qB/z2rEB4654M3bcuVUm2/XjC2I3I7pDNaBQ/oh4Zctgg+mQoQc8Jma76dS81V",
   "CVQyL/WuFiuOEAhK0b48GZUgZ3DpR1Fga1tdIBZM1AcbM17KpqxThjNQ5JBqYFRqkS44z/ify5s+dLrAaKhGlqNXk8HNgs",
   "nuJ4+hPYmuh0VVGfHNLJ4utBaIzeOS05SXWlianQKEflI69m9IG7L2CoLzn9V2/dtx0CxEwniq2jeEZw6G20z0Fc5r7hOd",
   "cfcuzQBlbVECHFsrynJn7Z77N97tig6lYlzRVUFwRCPeRIVmxK6NMEMWGGCn06+HaA+QT/tdxBEyxpgE/dzzzAN9dL6jIq",
   "lk9FDrS7h1kObnL4MYMDlo/oA/Djtmvbkx4hDQD/9IqE9NvFVZUQRn2Gln8gjo2TdE1e6TcagtBqBC549IFvrVGLRsbPb9",
   "IV2kpLglz47w41U6WhhOHvMPoL88fRoX+Wu5mV68MIMcLWydqCzVp+UIjSHiYrXYi+XzaeXkMKtohcUuAVUnaemtf0YigM",
   "P0EnDPyCsPQk0ScyIxbesgRBmghcxq8SlSfhshOPmE3jJ5BGzdGgii6Bd3yUnkPFOkphCO/QwG4waXun7niBMlq4tILQOu",
   "vYhF/1x98BOPSeaGQe8KL9eQMFOfiC9tl7YLm+Jwe3Iof7prcXUzDY+z2PtQ51spYqy6zMlLkW2OLB4u2KegXGQFSlLEHk",
   "F5ipkuzpljograunDn5Rd46xk6CjO5kCuBkR/aj9cZRaXEiqvDpii5qDTm5PXhdm6qVyt+GdzyE6pf9KnQUBICBLzRSEJm",
   "Qh2A3+uE2Ead94eTTHDpa0ZladNbg1rTc4UAl95rl9thwBVftaoxiiSnxfQplsP3WDkb/OSwt2XJGOYxF+SeIWPgKepMZt",
   "qXDDptBHVVybmXdyNdiJUyMkoHmwJnsyyrHIOHljYDixQn5b604enz0Pi7OqFJFnIsQNOvCRySzPOCyh/SgFg6FWpjRKX+",
   "DewlX5PxgwbtT3ya2iCq5kcHRQbfjnwCFEECp5u/9chaYUPCXefqIwssvYTkjCNCtE6HgCKRijWbsICZlv3s4BnwEsTYS6",
   "VTNOHa0NoLBbjMYVvV4Oxw+g8QrZ9UrrSRL1HG0SOPUD/fHBZGmTJDy8pOgAmJQslYJc3jbRO/ln9B05kgqZyhZXyQGi30",
   "CiBHxcuw5C29NNas7A6pKkqI2K7uyyM0GFcytPISrohJNvQDvF3Mx1Pe8Lq60MS2FZgUj4D9aI91szkcEJDxKDJGPzHz+D",
   "Kh/oElCAHmH9QW/G4zdlEpwG+yBmt8RLRtYpslkxe2lssUhYKgtARRf/KDYSETNb9dvw92FUxMroyias2aF6F9kkkW7S1K",
   "R4fvCT1gUJOKod06wf+GIbWlKgwQYaonFb4h3c3Vw8WYolmseo23iZy1QvK5XcDm67ZDXLuetSsryJ3ZadNRnhEmIM3vfh",
   "yB80qvtp2ckMsoZlEsT2rdi1l0fS4WoPYhTS2PA7/vk+UxSdHloJUSs7mI1mA/puM3ZYVHbyrwGcG8boDFjaUCyV1hW8Jd",
   "Y+zdhKZdYIGsKa6jhZp0gud95itoGhqeZD5FJkqq6LWIabDivlaON4zCgXWOqUJ/6zaOAOQ/stLvd+C8YrBO5l3h0EXLbA",
   "UcLvM+o9SLhOfxXbn4t7zF82tJOcEGOS4aUG+jnsLMlnTCe49O3+iLGYeMJY2+Cj6zIJ+jEC0Yulemhn/+Z0qxRNZX78eg",
   "UBlo3gYOveov3VAmSBQSxAT7Ks6tFG7Fhlau9AzAmM6o/EFgoJZWz7HS/qt4MUgJR0+lfXIVxcVV6QCDAlKirGzHgiUlkO",
   "/W/c7b8UcQTYTCt4dmPT2i1Qn6/aYDptyqvs9/LPKETGJ1m19LZyX2Sp2uvvgsWHMVcCXwG0+eBVarORieUlF4bIXF+GaO",
   "qmbDINOjGcZsXriIqxZyNZqcc92ynbAINj6LF0PcPZbPMPlB9qE1uujvmCj/OAGrWbtgoC4sSWMwHm3IZbAknAd25Ew83y",
   "Y47gMO6EPTUuGjZfiQNcGjCWM5e5ibWdEMDsLGRoMJlNZNmzahwFq//w5AK+A4hJj35hjkGfeLrUSvppMbaViC4rxBIHZ7",
   "lb1PkGTCtvpw21suHC/YM7niyZmNaw0h5CFq58seJclrki68Y7j9ziz+GwtanZu6U8ZUhxFnaOVsDxAZ5dL7wgyU4WhxFY",
   "SmxnPuGwmJDgnhVKyrQu4JdD/4IRHvbJraY/jq7Wa+rpXmPI/HRvqNNi5Ljcq/Ojf7ZDTUOv6kdLlYHHtj8Z+xEIyZA5vo",
   "MLZOW3eK/9bUlvhsWFSjf7IUUaBwHRpXGbxB8JYWm1JBi2nxIwa21cl6eod0v9NWVAxAuYHNJvtPg7cQvSUfd33N7GzuWV",
   "iF12JHube6B5lrDZ3bswbKq1WObrslshwjIex+nMWnvzi72M0sHSHWNa2sK6ZTTQa2pubwGUL1+vUzNdr+qJpOb1pzLm94",
   "GyV1HahtaDH3tfmKIgnx3gjPFE4mSbs9CGaVHz7mfxENSvBeEb8iMX142T1ruRqT1ahmhajdBvwoT3V7C0ra+t4G7E+ECL",
   "6sAxFrxSalRf46oPuq+HnqH9GiECBaYM/sgteDKhMrSY2XLWCrIQGhoay1kc2eEzKS5fqks8hGynIMqhls3vSKQ9fYKoe1",
   "0IpfRdA7gWMXliU9MjbqxPf2O+EH/+as3L0PRMK+JITHI0hmm5jH9nT9imx2STqBbaxs/9QnRg7pnX8/VnJkeTdHbvGfoC",
   "efrRphPXwCau95IktMWqUcVqbj40ZSz0uSQHsSMS6n7OF8ThB0+ljUT53YaQ7X+vhv55dWhWmqpBF5M50pvlWSsnsiit8f",
   "F+9C30jKCkwayE76OAUpynOEF/+CrMITFMI07cKAnjdKXdzFC24puxgtdp9Hu2slgFBK098W4C/QcAOV0lQYHH4savGDWb",
   "te3e9sLETArhYLqo/EV/BiD/exyhZGRqKZMLOio7ey4seZvDnGE+hf6UVrA7JHONV7PEnSL11ugb4vvky25UKJx+JvXd3I",
   "xRQ1tpH8r4HqGvL/wu4vB/sonfrdvzDxf9rwlrESPOmr5uPZMIK/ZvVIlasDrcaJWCUFQN2vn8egFB8BvaceuFjd0jnGdH",
   "0dmDz2nixiNWcsAtCFEna34nT0KMkiCcvmds82C/SdtxRkOid827xkEiLF/K/0DzBwfoY65/v8p+zgjb1fj16Z1UC6/zeL",
   "VNXgrdHmUCnuQqeU+YLpfbfGZOiFQx+8UmXIF+T19LHgKDcLuXHjiELGQmTAuepJNWN8lAjLQC6LuIqMxv6Z4DUZ2+DOXZ",
   "kerfVBRQkW3UiupaCFN30l1gJY+odR9ZZe+vOkZKM+JJjskd2zq5VpIyH4++599+67g4yMpaDlyhDjYjAHnkLJKIG9EUo5",
   "t5sfrmKPWnHGgYO1hdF0wQx1bhkhXg5oUeKGvXthDjrtWcXmCuUYkAUb988XnKUQnQatzb9dRl77pWBrw58AH9spdpgzFy",
   "2DEikjJqBiOUIqQpWi6B2v+prkDLE4uDwz8FJYacY91s37O/o7ltV4qOPrklsk7TtpH5Rq7+qJQgCFtRaYFXdh5cqvXR1M",
   "9UtXMNwbiyHjfSdhWEdImV4wcbWbeHINiJ32CvoguqBB1EiwDGVG12AUAy+U4FwY1EdOi36fPJDPjUncSiOrxKmOZ7P2eV",
   "7vBJFmLVn/y/eiSQZOT5VDtGT1Wwec5TrhJZfdjarElMwmosE3Y+Gz0T5thrfMs2HBlJYYNIhtF0V76whiy5x9exVmjVLh",
   "8pSJe46J94nbU5NZQrff+jvvFVq/WK4rJhiSVH2PAqUwENkTllRuIyvf0fK9xKIfYudhbAihwWPCLr996o3gSBupudW2zf",
   "+HJUEu+t9lK9hhD4ODE6C2keq4wqqSlH9XsDfpQ+vB2UoRLoZmVoFO8V1rKnWm2Er4AXLLB1XUXwRrBMynK7H7WPDtIeMp",
   "27LLv23P5TyDJ7+/MZK/Zp9M0+O/0omm3v7TrPpOBO/cT41OTnGa+ewER9X9nX+V1G+1tgMgcc1F808bknorXDJDZSUMhg",
   "kcPaRu1j2wHu4H5rriH7qszWHJ/UPAimXizZJ0ASM4iYmLq9hqe7sYBjS77KOa6m57AhyMpl71XfA7S7q05acqv6iMexuy",
   "S+WfVWVeEHG+xa8EUPDLB9rID9M/22DJkGT6gZrF+Thwx7pV8DfYAY24HsaZ5aMchVshz1QSSqVyHKvKfeoP4OK+MB3QJo",
   "8Wa9/IDZv0/woa/IeGw6aNqy9+1pVmR0FizqYwtCAH2nYLGYgAkykR6VlRwWN1pCI1a0oUUMncfcyTIiAEjsDWw6106Wpo",
   "4TqYkBurQ+QtIpNKQ3wJyUhklZ/F89J1fxNehrLa5F1EOkgXrSt3v+SMyDhdO2rlch4KdiXmHzQpFdB4k7pqCg5gw31134",
   "xuTeD6gV8Ydr5YC3wLvLtEkfx2DTYYgL6mN1Ku6LKkYSRi2zq3V8XLjOylyWl594QFDUL9n99fiaS9iHq6doWeaki30p1i",
   "jrJBkDOMuQrdw3hz6Xq2COBwm3Vw7cTArcq9iS7VWEDFYSeIOouUvs1veJgNKg77y8b3DNguN4RaqgrpwCkaE/1SGcfW3g",
   "uCNaBUcwpWKMVQzvdP3NYW0nYZO0wm3OuYjdWc7iXoDCv8UjBdm4yNRW1UwD+v28YyU2BnSkz0cO2crcvvmTrSmVAjqjhR",
   "OtLgptq1IVhPwoPSGE/UGIAIcz5pk8EXR+GqUt0IIM2ZsCOk70baGAVW9ix/5FjTI1h6xR99+MVW4ROIOH5dhYlTSrUKtz",
   "omkn16YsuQupSOjwnQniKZX1YKBYNCxBzzQs2cNsjlIpcFXdXdW64Veswfy/6nsSQpgojICkySH36UDntAUay4+jBczpoN",
   "D6YNYrKUTdgRsevRDXWHRewLrCVQ9CnLC6HLcBe7rLPtPAfksyWiWtfTiA4OX+3moRcie+wj9/iB4QQKzAr2oIvCIQWxwt",
   "4ASJrf79HlANG92fFhxwUijFshacbS/0vspg7t6wSuNV4LVM1yAbMwNSzljpVw9iFV3Rs2pgdlIE0ezNzVVMGSgpzxZSm+",
   "IbIlsLgmgT6aXlXdV9tKfWRRCReqrVprdq+MZRcqXbqSGxAWL6l7DzGKafjMEqP8VieQIppLFKmZ+yaIuRqfkjggdNmO50",
   "8EvOz28KTCtpgo/uvmb/MWSWnAjFhn3JSJyuUaQ/Xqi1zAcadVuwHxyLMCktYexamanjMocbX3/a/XcrSAvIhclBygo8ic",
   "QPdr7nKFH41GeHcXchSGDMU3AO0GLHOKZts8LkL7UPFxhZu43kKkWgcwVVuoyripGkKENDk71fcqJFZ2U2/B6JvMq8obj4",
   "oU7VFBil2V5dvxbqhy7dJsQ2V9nZrsW0hK7ysO803fRH/pBZTjfp57AQEwvARqyXWpAkux+2/4luZSfMGc2BpSy0mqXfbe",
   "1tsMi8jgcCoJ/NgTsBoKpnO+zCQznzeNTHNFSRcThrQxyoIQ25rQUfeaVI7j4bqvH+BT2Z4iubQBzqGGV5WLYmlkNu9uki",
   "dY8QD0PODVsoKmqWGXj1jT6fYzRQ9ehF8xqXyBEtE+a/R5XVVkBHTjLyhyT+336S2zVResBu9xMVUOSNsC3ls0NFgjt3M8",
   "F95vBicjCnjlQAU1u9Ue9T4zge+Bawhv/OvgM/fRfn50bQLfFrf1VrXwIoz5RCvi4XPcY0kg+yAf+TYK2+PAXplM6VS6c2",
   "fbsOS0vELHR4P0ue1tymnXwziUfpDBvsdgMVTi2d8wSpeYEhI/7BNsYM0pfPb2AdbLcKBLOOIAkK3bz7wPVdTLMSxCcZ5A",
   "lMtStwGEVUDkEgiVi3i3qobJU+LE4LVUSy/aG4tUX1iZRwDYfVTRray2YP+WxApsGuEgmkiL/pWkzQdTVYYHskBWt9fXhl",
   "9D6uFb1UX8HMcMryNbG8tG7QrzNsU3sCW6ruL10INPoUy3kOSRvIP6aL1PDl4fmC0ul8enmXjvs+E/e4xseu+jPAGVK7FR",
   "UWY6srQtxMbns7PQKtp4GxSFkIIns2fbOk5dUtFT8r20N06Qd888Ek/sF7SrIvOPzzILpIgX73JgdHjM8aJFsCuHFx3OP3",
   "5ysKq4KSdeOhAqLo/uEtfRd7ZFMizOfmJOTUUYPSaaCFBuAB7vzH62qXcQSb+naWwNt8vVnICuNlfA+96DRU5rYW6+nSlq",
   "HYtqO0xYsF36wPbZs8/hs6eWI8CsPExlyJbjR17uEgh1NQRXo+3mi6kj3Bmp2HewxN1Au72ms8HRMwf9xLJD7RGYNFadWl",
   "LdHX5SpOW65TBSV32dOjSPm8Q/Cc+Zh5jCM6MAOopmO56FliGqyUFy6A4CsV1IqNdXp8JbGQsAx0qvUDQ9ECSC1ZzbGB5s",
   "a6v2CNtNpPIt0Vv2YDMnT2fkig0uJ6U5IiWi2sya+L/95GKH5LNRsnCSV6/AfY2QsLtEOI7FcytbmsNPbE7Be9quLN+1+6",
   "q7PIhd6pcl1+EGoG9UsZ2/BzqeT6DgIlqnmhGzkGL1ofWHIQlsxbka3bYVR5af1M399IKzztgTAPTFp0XNtxK0M+u54ZS7",
   "fkWZo/scqN5AtyiIg4BrYQEAN3I4u+KPTDJYPAQ7FI+vlL58Gk68mov8Yf9qEpecW08WIdbgdb5YlfK3IDqgZp5DjfGRJn",
   "hVckayvoM0ExDSjSe49bd8EnQQiV8rLBb81mB3pJKVjkSp/8puXMPp5HjrULWxVz+bHE4UUmyvr05x4dorc05WddQj6Auz",
   "M4HrhJV2NNBx38i2vb4zuOJ0WrdtqWVk8PpSUlF5f7wBmpj5msxbOiAs+o+T1BMGbBoCFo3BZQ1HYA/+V4kSvU2RREGAWN",
   "3o65txZKZqbJha9sIugMlMi+7F22Gugw51q6mB0NzurOEKXYfuUQgU1FNbtsPw6Qaylh2XGTDh53I1tlJZlL6ORsqT6Arm",
   "oeF2IWF8V+uH1f6ZzfiwxpaaNVM+JVhNNKt+2ehOinL2dZXrcPcCKHmH5k2wME8WdfOg0os9So+0gzm1dI+szykn5dkq2T",
   "NF/VlkRuZhVOBTD1tnge74SKnh25/42SoP8JDOQe2XeWrsjRkctOaI86Smsb8lMSH7k0EH9bHPI2OTOTJOfdiQnPYEQaXU",
   "9DjBUTYxnKwBhuBsj0e/LGB3X3mxv9wCaPsxzOp4N/0zkIeh0QJa/evuYyOptHahmGFBb4G6yJrKlOGauQEOICzL+6Vocz",
   "S2jRUmrw91Ykp0Gx++2uRxxzuIiHx4Bu8HywKm5bdXltlCC6QaY60OlSX/xdD3MbYwoUPzG3hK+Hs9ig7rrcVAPERRYJiQ",
   "ZkUbgAZE0yvml0/Fl4YHQ9RDz1eyoW5K6l8ukG+m4dxxx9F4K/4G5W4LfdF4XnsPiKvyy+iGOCFEiP6DFDo6PfItpvnNxm",
   "RAYuCT9lJvp7zuPc7MQkngOpfwCQnmXgewtpIxsmI+vmafq/YlHU1JPho/0JaEWT2bJdX/wVm2yOJDbW2qZt8VixGDGTZJ",
   "XepVqkqiEOQjE3w3hruS8kHpSxXMLQNyrgM3b4gjpfzwcThFnPwNZpmUx3iyjrhz7c3b402nbyD0+/NXXpW+CNiqUZiVEw",
   "/WXOeDLfonf8iS15yYg/zMxbdsZM6AX3cJXGw/sbSWtaBwEdIslgs8wwfFHT3SWSxX5+ztbRwla3MNgKxg9F5Ij6q88B89",
   "91GaKwdsj4jrW99Z3kInfQJaJtIUhD7LdGp8r3EKjqLDe7bVj/EqYy3xBa6r4qZcDWMeRGwP0SZHk8ToZut+Dg4BzHkr4v",
   "7KFrhTtDQqJYRbKstrxVM/Jc2QhAsD/rBwXnC0xqLPF0e5ZI9qi9rLb530eXBtPvaXhO3+Pqsp5mcEdl/jWQOF8oJ1Y3Px",
   "jKZ9NwJ60zftil/MQb/Ab0U9KsP7VFP5znepB5Kh7t6We92OGmvlCx2d/wDN/HxaivkfUlSat62ic+5C5YSy0WiV7BIcU6",
   "dgeJoYSJjKCNofvmmqJV+nHADYw3ZtUnv7e5rF1fGEgHTewpMFCsrmsvApcteUx2EWDKLF8CgAOp6h7eKEp5qJYO29JDgC",
   "fLjBuxAm+fJbYPfIDBJ1XPDcLlCgOQlFUbgn81mm1pNhunOV5ZvWsIGplv2N3yipM2UJPrj9HNphxP5E18vcqZieliP4Bk",
   "8Ai25WPaEKSNdvn+J9PKYg/nVGHA6kK0t4gC043jhg6tB1+ZE4ZMNBmH1exGnaD+oCNH5I30OpKYp6aULXu30P/n0T6Wa/",
   "7xzmNDs5sO4FHdSDQsjYohRNfgQsuXtW4NzuyFnfjUsb+PtTgsj1XtZWHd0ns1LM2lMBFDrdug4PqPOBkEJnPMk1ia8wGZ",
   "tDdCY9yuY7idkzxL9uP4wuKOspuF4+h1zWpl/uzLCVaB6wHpgjQ1pldG2fr7PupSVMxEbwuZIQnWvX6ivLPakQKQC/y2to",
   "6Q5jo2gZItQd5Vvp8dQhBupSpV2FfFu7sPOSHQcnlp9cZM2EZmhVTSNWrFvWPEmcdrDOtf4BIV424+N5siRThgYZ7c2QUk",
   "QVrozv5JkmCYObcfeEFnTtwcFwckZvzppIMIvMdUQqoCQDwWBEbTcrQwCuzQuUxXb2ACStx+GQxhznxfm+yrV9O7nsPr+n",
   "OXYZsS1Mgi1/ahAkdxXxUdwBG4ArKy6GGEHar/RI+ViM4yzGh/LH/eQmOfuByIRFcNMWuaLYwg/E254BpEoZsK/enV0chy",
   "xEjBlgpW5++XJXjQUF6HyF9DaqW8F/WfrkE605LjYI7zF0o4/78OuOqhWG4VA3LEAuco1L18YkzIsOIUYI98cYQfxBz2ct",
   "nJbvOWqsDnd/yaApp7ckrZrjuur0u8NUREiC8VhMp3E8XNY2Gd25GXzKrBroBqQ9EHbTaluZL6Kia4w5QsY8dUNd7Wxu4i",
   "VKLRnS/N96x2iQyIrFdD0bolOHvgTOECnRmN4z/nL04ZmHWnSXsJLiF4Rt8dx+N3jWDNw0JvuihHf4vezugoazwg116TNi",
   "WbuAbkptnBjWY+n/c2Sel4xrBjvNeJivjdeNsOzp7dKh8h00PEij4y3LvN2V1qZ1lIHCkcAh3iLSCYiHIIzMrpf9jtsZSt",
   "tIoNKgrF9HXZGox7ItaygTE1ZUzXfkTzbwjULo0jZGuRyuvxjm2BpE3p+wxn8yve5Kbk+tV9h5Fh7yhiRhzKiOA1vTNbW/",
   "k/aS/U9L7LNq/vLXrz90sSBgW6gRKk2jVHcnD3ACHH60dHthBbw1Zr9GN0m0u1bAFDxVW6b95GyH/Mh0RfMVFfSUsVLRcX",
   "oH+r4/lQMV18Nf5M3c9VCCDSJPyAlcvS/I+fiLSrivWKTV6kO6jg54eaQh1pnwkCDmk236ldlLV8ZBF7up9+OrXwoQQTVI",
   "yis5TI3QQhWU6jMBGRzz0kbeewP5iso1m5Of7FJN1HmFmAGc5S8cz7GasJK7KVxcsXAZBscl6qHzKEpMZOx4zGYtuzHxTJ",
   "qbiuSYmbuf+2NGTHO3+bE0tdBWsBK96qD/8Wm705+9H93D3ZwGCwa5SUA5DnlvOuxB4bx7+6Cj6GyQ36dGGd/Td/7K6Rbg",
   "Aui3jF1+wL26dfnHXR8UQfYUbO58Zi+YQjNjrom7CVH+FYMbV3HWGRlqGr3nLfsQflmrgqzLw+BfPZ28vFcrmRMT1HR683",
   "pidkSPxeuShduCTRsp2+yMpZG3bl/uZ79MFySshLwR5JS2yduf/u3dhOo8UByKudGlyO43tKcdIhDjz/D4rJ/BV993/9Hn",
   "WNoR/0TjqLSoVro0Sa+ygzSy+2xyanu+YHDjC5BQyq5olqL5PQmCgrkPGP6l5/sSZDmIC9OVt1V/ifUoHJdJENqGTT7rn4",
   "C4fLR2k4spSF2sSzrkj5ELcupqVyMTDHz0FTg3v+FDTR9X8gxMj6sXAal8O/sAqoYphHgK1vs+SyTSpm55R/2mvYZVgCx3",
   "Qh3hNaGPzsbpKLGVC3Tg2hyyqmdbpfAl9OITh+ubj4i0pMssr46wbw37KDivEGBeYyJRKpNmokferCZ1MUGDe9kAFsnj6H",
   "IP5/cNYBcECqGBbNUNBkce104OUeP6+wKOSvYNRbL7lu+qaHcqYh2+BrlS3jAB6JS41PSaZvoAt4wZCBkHCVVNYn7BqXyX",
   "aetpylvHrlOs0x/igAx+vFxmEiG0sraxmAXyIol0xZvs6+/msfZWkzpkf2nujCAjR2S3jNWh0ITFLEWO4vxjkzt+9VIfjz",
   "rTvCC1HaPgkf1WlPLTYw1BIo+zmnQgxsyZrXhWBYnFVpOlHMp3xBY+IrUZ3gEjJrWT7TbvlYkMw1pno1eLIuJaa1SEpjCW",
   "zNqcrb2qY/GGv6kzfXK0FsVaoU63nuifZuTX2GHRGBMdc7gHwXFax2SMOYnmLSaxPVgENLet/eJuBwYM/+3QXn6fA6aouJ",
   "tnHHIDOHyHLCe1+DxZXiKFvVsh7NrmuJyUC86BxFqVnc4JvJchkzG9mcODnxf9MZ3I1A2lt6UHgsA9/PQzs/jpzSrulTqi",
   "S61j+G9MhgsH4+LTUhRsKlYuky31F9V110V1dsPeqWFn9Z7wAo2EMO0sg8znEnIsnnvkp18XE6JM9c4dP5OExBREZupCru",
   "XKaZrwkBnDzjADj7M+VcGGbOtdKXYeceuxG7DPWPVJ8OlFKNrdw8niiDm7Yixh5FajbdBXh+nyq2X6j1gmM0vuBo1D55rX",
   "A98YV/zNJhNGXSCSwRNmLDDU6CoAX3aM0gt146iaaM6P1CMLqnRmzaxvGKzauEvi1n9shR/xEvUxNMTXfLXQecagIXHPMU",
   "CWbIAauMFXw8YRx6Lu0jXmdM1rpZTAzA5XaU7qf26oheciZ+bNi2F/Vs86Svxkm/7W26AVkTjyndLXWEznlds+CQyHNKVG",
   "7nm5bNYNg8j/cuFUaKSnHe7RVJXa5eMsIrI5Pz6ruaJwSUdnPtRnJZyQMzTPBbovBWk8oZLtmCIJQPGOCDcuTfBjfCgH5Q",
   "L72dHUePPuIJVyFMufQweSThOAv76nBKGuM2QpVw1MnLJg1vIoOmI+5+evXipxzmZOW+pfcSrU+RNXX2eBuNDHGXG9bxbC",
   "Duu/vT45Zg7u6paeNjFTa+WCS7htuqdotLPyIP6gnhTlg3Al3Yt+mCEo+C2bx3toGa6NxIyD65oMA1+mvVOW0t+29YwCLX",
   "n96vJozOnT90rcLRUbeaLbLh/pxbEOGTICoAjwWSx9xXbvsJTeszghiC2ZeNixVlxhn37QcI+qZifm2CV9MA9KlNiND6zb",
   "8NUM/jexsQQ3nLT5cUA1+vfa8tP8cNOsggHWIJQhFRfgoiSYAUbGvkjg7X9OW8nhVy1KgJfzYheLe6cvqtELc6+ze7xenf",
   "myBQXrjL5gj7oSP/EPmctyk5ZU/DbUemDdnBvJQSTPY3NLaUIFakYch3zu8CMKY+GGon3InWC/zFabJCqBLTo0vW7nXlwl",
   "rBT775MTyoJFjUXyrwd9VCcgklqT7WBDaEDh6WbVXo4owISb6voAgd8mQC4apNXV+HwpOcflKNTe6jaWtbMhwghyNzg3Qu",
   "+KKNJPpGgZEfXgoQ+IFT8CHog1MF7azG8goyO0EeeEBx6T/R4hhWGwYbFijqWbXbF3JEsUX/7XCPI/Eb40zn1hcbwJvDAB",
   "9Mza+37jKKcHeCyov10HLjd+88XAXMJeN0yugs+WgqWhhwyQBVLou8sNRm2L8YupV7Z6bAqkNIaA312DOfA5D6PSCrVDgF",
   "h07jFuOAG/7E/nUmEm8zZf0B4qL0dl6qwrVHHqzTkl0WlkNYxFxxa3Z6dRKGXog9UrXZXlc1iywxSs24U3UY1VwMAGVRbb",
   "Sn0kK8qtZmyIEloyRWmXwfnc2cgHeUlg+TpQEKq5gLY5CCysk4rQ5MS8njeKDXRenl4FD1aBSsR7cpmDUVSUwAb7cFDJ1w",
   "SbkiVRDAOZeq4/rBqxRgQPJAHUfms353aZmpVQEDjPusDfZUPdqF7kU9GSVwqMGl4TzmNoBhByi49DS791yK9VCOx8Re9T",
   "AwN0YbcHX/f1+SvrY3zcAlPyWdwZiXlZY8+4a+3RBo9ZJMBIhwk9Au+/0qS/gxPGQyVXc82e9HPZNEWIGslEhXlte0JRGH",
   "hXCxkWZSnD0iBFjYlwwVG/L3i2HcCXKFcMaReowtQwXYebd6/iFj6qrKG4W8c50UBbwkmo5L4CzXGeIZ4GDsEjPEPxrpqW",
   "i/SZwJIW/Eqixzk5Et/PJoTdKS9jF9D27QUuQ3vJolWlTIn01DY+Q8UvZ8sG4eELjNeurlQTOOwxNIaG/vULrfdMkav6OO",
   "KxRT6TzR9J5M0ThFCz3yr93QvFgpUXwNsYwMIXRkiuVp3R3nwjAYYZovwVux5bkdeyQ/hiu6UvWySjY+emG5P08qDIERjW",
   "S9NgpBy2W73pwGuauaoPL9uDoMegoOha48F86djboMlwU1isRQdZ3VMCzyx7xlXzTBsmy1GVdDhc2BzmRqxgaq7JLS648r",
   "3ae5TrVO3wn3kpvbf/e20l+EtM72zzQjO/WajbXVxE3vtWR99/89tEAfTvYrAZO0JrD40CeP5Q0mnkZRzzr2Rm4rYG7nrl",
   "cnITw5A1s5t3+CYIKzITuBI2PltpNUounkccxPojnjOpQqxH2D+jbWkwTd89VAe2k1C8gsTWRMdmSUlKvEj/xFXTIBt+ZO",
   "X0nF5zZvudaX1pYYPZ7SGBILrgU8ud84ko+vDLSOfGxOV+vnEF2RvUnd1IGoSWqNGhvbC+GImOxKe8CpzQDeZIfafRBn57",
   "pVSuEe14W0UDqYhv0uTpZ67dnbYkEZYzTzdDwUOQZdAdg5bgDdPXD8otzcaMAUUPAwU4wN1UeW7k3GJd8X/mSFGmWVE8Lm",
   "iDSfgremesaxta0+uy9y8tcX2GZEL8UTQCqlcGc2/PzvUp/8WgQSs6aAJuM2LW1rSkilfWKgXTkO3yRTmWXU5yie8bJTkc",
   "CtSYqFLUQKlfeLtvhToOVcLlLD7dpA7TXQwJ3TOYyJ9onBl1BXgQVd3rIG8p0Mo4EyRoNdUBSPlGQ8t2hsweDSJ4yBs7X1",
   "469AHcGHpscXG0vo7A+E5F4qRbpDSiBe9uZEI+jvak88ScQ21gb4uWn7dozDGMdy3OspXWTuXAX+6PWTozcu3ZC37m+Nbh",
   "8Pt00p+vNF8JEvenqjvmgCYsguAepfyqnNUb5MusO8l8e59/rtL8wdXKIyJmSYBN3g2HNOOoOAL+J3wjHv9qn9mqYe17QC",
   "9AvCTDSSRXIfgw1pDcwgkWgUBHbou62K1tn46J2Urw1MpNtEFOonP2tY5rzAYXAbHh78LQNmtubDIhd7HM0lVauCMBVGQD",
   "FC9WV3Srb3VW3qYQrB3doM8NpCyPIbXqU/fwMnbiD696O39gAGHrEz6g6+GHJaUOsEapA1rC2G4xmmlunaqKiPBd+aNmn3",
   "M3b4qk3W6BSrfNwTrii+0064lFnOnG6hthtttl46KsEaga+BBLBiaQ/KpJgIGjHuqesGCLS1dX2ifZUYfAEy+YhEBnBXnH",
   "mZ+gxa5q3N+eq1mSqDqRCDh+Z3gBuSK4xcWB/H1m564oum5KuvaOz50IJS8ewX+qNP+y0oyxR4U31N4pM66Xt8OZdJ68e/",
   "plM7UUlzEzu5UfuYUvSycRAG3Y4pK1xsERrbMxMVflXpn38p1qSEpMOihaKvS7x1Tatejyn//FZMh65UyjAU2t35uB1HZr",
   "zzFyxsqfvHPD7TIBbCkhE2ihvQRh331CCKxG/LTOtKAYSdrCqhN1KE5kGOeGSv+xF1Q3+FNiBdYya5veLjj3lngi/1S7jJ",
   "eW5nbPcUlZK6OVqRjgUnQXjLysmo/bm+pS9r8ugFRIN2K6/JDKCPUxV1k/RUfJJPuWgkm8ezQ28z866I44igzz4ktIUmwu",
   "JwAebjCbH/0Ci40oap+ymeAM1ldfoTbDuIy2nhBP7pX3isRSE+qeQ+NrpVlIM3bjOG1NDe3uKAwhXDZwLGfcCZABcUl3Cz",
   "EQIDl6mOs7XNj05kM+Nh+D49SdYvsAY/EdeNriW6+1Ou52DpG1JN9Vc+uN87G4InAHdaMmrzX82T0lE3HBaPVKb09upq7J",
   "iisVt2rZpLjEpr4La39VFQJrQ0TCVJNS3txB79W1Ew5W/5nyvk6NEJU5iFiQ4pnTQ4unlLq3p7SlMeZI7pJJ4Dh3RJQnbk",
   "X3LH37wdP1LxMOlCNh780dsoartr6bcqLmkGzOX0C5LmF13CQN9K89xFBQd/a1pLyhy9cW4GE47Rwx6lDaWde1cc8UY/lh",
   "DqhS5tZpstXZ8/sEtVnBqTn9GrzEAMt/tZUEn096/SG1/xcqx4nFbgSXdLfEab5ZqreZqweiQoPrjQ9h34NFuEdTga37LH",
   "fOzC5XPovn95E1oGnsmVZKcGpTugVwBGzt8PIFQ5o2C9QM5cgY/xtgG5Li0reh4VQMD7X+fFW/cPt0YxreCFIA/ah31nYh",
   "hxii2nYdCSg+ijpw3SUhgiUH1KzIVyFYcMvQtl4qUta1L55xIj4mQJ1CYFN5cebKJSSn/qkqGmYzp0ecuqT+CK5a0GNE+j",
   "T3x08LiG6QtLM7OSVSgb2p4PT3IuoVrFJIEoh5jaWwpotAqdVv2z2fuUtZCa32ZrljRzSHuJ0KxBHQ3wOtws6VOqn0pDv+",
   "vwvColUF0EGYBhjIiNCaG4sRwnk3+1aXO/D26Gtnpfr1ftt+Y1sEqSSTCj1UhQzeb7hTKTjdnKQ7m3qnoT2pTa99/vDRuB",
   "KgMROrk5Xb7Dca7r6uL0B1zfj0FKfFpFb/SxLMMuf976+8VVFM1eF0v2R9Mngd85rQGczIuGaG67eC/OI833RbGFi4TNHg",
   "QZb40qWkxnOJ3nmpwmiNgu10twip+T3v2rsmaa+FnkiBmXMcO0rvigQKJ/WxS3IZILPGM1HxIHx44QwHFvV0sZaJ3jl7GR",
   "ZIFC00kTo20PCGGHk9SI6dlKIxUJXTfjnaQ5zGwSyz2bWuCxyCD34NDaiwtoiBgmNrS3ugnO1rL0xQa1IQDDkiUEpi8w1U",
   "JToixVIkXQKyVcoKK6bMlVKZMGZAUZAosw0h5RUTkYNKuhh4VdzA/5SErNnotl2ANAxRkuOa1rwWHyQH6C4/bWQyflIkqS",
   "ityGRW07lXtZ88tpnKgHubhYTyIao3TQ5XR5zAf29nKEoEJvPBFG47pWSfmBkbyejjkFf+RVV2fyGuEbirBuXmoaI4Lgda",
   "dr9h5E3PJMotjoPRpY/MyZyRoMwCG7OphGtXVCAtoAhJfz4jIG8VepoqtMrNzG3a3snf1mav4nZggtyDC/GAOreWQAWwJ5",
   "PY50QuVk7TVJW0ARUI6somJdhALIfG1MkI7XWTAOToeEOGF5MHnOgy96zwszzKcZ7yfHsPUAFDkdbGoFQZu1GyL9uxfvLv",
   "pW4KhaDT1qQL+9n3WbkHdprKnPmG/Q6Wsz9WQkkDcMNEVZ7rv0rqIppCMh8TscfnU+sdWT1qkMVGBPN7O4HenGHvz0wpD+",
   "dG0mEvAmPVczoZ9nlCMmFd/A6khQBPqq1XMHrw6kKH8/kaTeYoVhzWuGAhsStKhPT4OjjdisqbUpeSL8H8zta1RnYwsQ7H",
   "WUCtk1pr2OmDtsIvT6HRV4y0kTuX9CtMNM4xSZPH+yRz3ZwTFze37tZn7KJ2yLP3kxDXmOF9+MXfy7ORfFeDHlQ8GkXmSl",
   "c5CuIVnkrfadU4w4vCarjHdFjAR71RrN9USTbOQkgograwCIfYhyCkhQ2EnxBvrcfuQ7imtcS96DAgeozV5A5r+ZesfbK/",
   "5GAo+kNcFk4GqKs5v0bAOz9UpJfphJU/WcYn8nXaJovF9dfvRdbOEHfTXYiKGJaUh3U7i6x0FNk1b3iJjq0wM1EeloX68z",
   "BDLqP1X7TiTqCV8/Jvu7HPEiwjylk/APoK8GRU1/G1uMmURIyo7wDXYe5Dh9P9yq+xkoNmeZ1LbYVXqfs/OKtqMv849CcU",
   "FmuJH+3ZORVDh7QDdvylb7NDwulczKy1h+1ME4oHN7gyzCIPQ+xQqaNn5+L3pUp6Q8mLZKjYWNyIW//Kw3WOeXIoQdXTgz",
   "neqWbO04XbzZb8od6woqOS2C2davPFrQOuQMJgqreB8XLsWfZWtjsu0CXHxe8DmtuN/nUsE6QxO63eNXkCDjzqsEuMDEc3",
   "A+d195z6k7ULiLy10nQz4qIoicq7QXR7YUEdab7PN28u1zvpfYrjuyQNpRbzGXjG0EZcjGLRRT1r/s8BgZnwmmRKcWbjCV",
   "mPLfEHpTC0oBOv3WDSZkI0tK2OIIpG0MGK06St2wCSEnnq1LnnDgxEd/BPGpRcb7hwmKW8vTB1hyy+PuTI6RGRxAGJFWXa",
   "Q0lbH7lOigVSMSi1gHMYKcViByCra6f0MkFk6FU1Y/ZK9uRYaBkqSvzERRAOLsfxsWcOjxtGIzYKW6sCpfmWZijG1zKsPu",
   "RestB/rficAbltE1hYB7H7hkz1NoJlI21awDxcfoa8j4dp08D0OLITJ9sCUTe2Fb61OhWcSWJ6uQn/VMNUG2d40cixLH6J",
   "94DNqdOb4ekv8JQhHlmRugY16Bnh3jWBe/1DpaWtJdAx0uJpsIfzJX+Aciuhje8TMT4sJLQIpP5CDe+g+m9X2xtuSQ7pyD",
   "zZl+TJnw44mudfenafkv6dBbQtQ+iC1rAnSc+KsofVj4xfWTLD72JcqGiQnsaDrbcL9U48AbSPn4Okz9tVaxRVg0KVOOzT",
   "gE6RsS8tQkah/9t2h7FSyHzDhbmyhOs5Ctjm7h1UZ528+cvWLl7B5QnomIiOtv2825lFFHqF5bxKuc8UPxOU5HPjdPNr+H",
   "NDrpL1j4U762PqRZzZ4cY+Q9ki9+uYt/MiPiDV/Bz/8qtVHOHUGmXC8Zmp72R6AqZ920p84ZOEcZVPnnprJU2V8TeOFINV",
   "2w51Ks5flxAs/42SvxY6EwBcQp8K3H/K1pnrBjNK1cyTdWA+/yzAMY8+E900TZCkvtiTTrQxL5VxnpalwDyJyztjjnsTue",
   "z4D7Q1VSY69zlZyjd/SmbpOa8p1yOWLcFMKjhoWjwe5xRumU3G9YY+IhGvmeik+OOlGmYteeWOUhAynumYlwHYZOSkbRpS",
   "wvmGDYDM6iMs+tOqgjcs46a8mEViXRZTnvqkE+oWf7fgPYd+64ZbmLCwvut3R6fq5PdcRYKnvIFPouUEwfrj/9A8vBlIBn",
   "T9DNkdUsDgd1BeTMDJUR0GxyM0mIAXuo1I4EOzFaUWY7ekPQJSPgjRwYQsWyKV2v3lyKD2Uocic3Ke7U8I03IrAWVnNaJ+",
   "lVCIrnveBkWwHT22tSpNegMCv98CpDb80vOCF25yQw5ePSPwvKbYLB4nfv9i9AU0w3PYdmhH6jca79r21VGbvIwEdqGEFf",
   "VvaGzS75vvaKEu4e3P1z9n+GKr60gJ5t5/K+K6fkZpDJE8aDtHIJWBGg2I5d/KvgE+y6IlGNPUc8ZzIgoQWGXAW01HZ5mW",
   "PwJrC9gfkZWwL/aiY7a/Y4IN4zNaUezaoysWS1VOHAE5R14rRCCT35XEVacJjqBozDcclMJDswB0tyoet3/bVhlf27xNR9",
   "/ttliesbxqGmVhFYpuwJPv7AWH4fwrrN0CwlotdT0id5poV3PTWjskmYLX2XOw6rCh6eH7pSUx1p4FB4ZRxfvTrvoDZ5m1",
   "/8Of6X18ubRSL9mJm//Vim+uUWFUFuFY0vODMd1ZXNgZ984XBuV51pH8lvnI+DGsjYaFSJSJNqjSqD6Wy8ccGy8vz3ccUG",
   "L2iYtPVj/97yVcsRFhKcVscQMhv7Q541ykrGlXxdF1apYZazKIXNlp+YKZFWv3Nbkvr4xNjq8kAaeCEqnk3rfxy22ZSvk/",
   "mbatFbJqzjn6cOUNOvHXasXeUU9V+fZfFDISiNe6hc1HD/RXwBX6mv+ehICKTW6W/T0/gQEEu0q/Vf6SvHOrJSkZvnLgKz",
   "bTlU/qjLpF2WtnrEAoOZT/tZA4KHNa0i348fd0Waj1TJWvNO13HMOaVPG6W0rlyOOt1C9dWmjU4OJEBasIb7MZ6MEEp6FI",
   "pDJtAeTmRTVLPZidScdzQX/BCpQkuSi/8FLSB0q4eK5PHdpAbYLU6Pg1e/n8EucJlhdxQKdT5Ym7ZuLxA27UGAykCk/7mH",
   "upIsvPzQTtCsyvdW7MvedImPkNrWhALBuv1jYor4RzceSYwu51MpJvadw2PQarc59zHP7EV6e42XpFo4pXfagy+a9K2uHR",
   "P0pTfStJ2Z2SSlRtmLlnNJtqMbD3aa+iLHnejvhW+xE55d8qyZfEltY1XSLF9dLXPHa1/wg2RMRYfY3pK+SfmFTgpqhCWb",
   "0Q7F+MO1Kdsyf1wKwTLyg4XetJBSeu3wbTe5I0xkMbIdMNIL9GryDC/UEXRi2NfuactjuSmEuZAZvbTQyHrU/1O4Tt/rls",
   "9bnGdd5dH8PE608WzxdAKDvgWbzOpADII3YIFzlwm8WDm77dUyWo8AsYtKoJEBj4+V+Nkdo7/neXYTWwFjW0w3bX2NxM1p",
   "XdsrtF+MaRPCIB/K5zAIKwYX1aWq3Nc/FUB2aMV6WuJmWkGBsULY68r2tVUkfkHTdQLwdfwQnWZLV9xkjjz1dIr4eHUyRX",
   "bhcqMDbkVECQSAt2PqMm9CmiM/mMu8OzVyFZ9BDMBD5QERjr16t7yDvT1YhZnUMXiksiqEgp9EP04zIihUUKLXm3LMaOaA",
   "0z19snryLs+/nh5Brr8/JDr6IZnCdGtzuL92dGY4r04C+Nf++fpbnKO/9mS3FigAw2nzh6Eme4VzwSqDnfrNvEP2nvOwQm",
   "qgWOOdceY+Be5fueA+8lW+lHUyiNc8IK6uzH0qZSKDPUZLP4S7d2eNpysLVvuM395r+e0B5Bk3lBhISgkgYP80U/w6PVJs",
   "pVJX4yKehhJ5QrNoVnSgZ4BV8XB8TQVOt1Y38rFvxdZq6G1xiUMGysV71Gqd6nch6qTvnhUua6+11iE3JUxa+xoHiMYK+J",
   "Kiztkj524tOjTkme+E0j5S9ADBzKyG1fJx9Lfhrg0CL4qFNFqxuLLecwr0F1Q/Xmp8zKWrVQ9FmvcudYmXisTAdTLB0FTl",
   "zEm7EWr3jjlA3LxQf/1VlGVaF14jodvchZFFAbsORtp/cLK0ki2QHunUvOZNBqZOyz3CR9DYGpt1X+LhSGwsMsibCPTmQP",
   "rca3wfyY+Y3y7LQViGYE6gdni9I+YIbiJV7k0MoLAtMEeWrb2oJhZLn+mSo7H/tQg8CJUDzxszXQBPEd0VkUGvioyAvgnD",
   "Mqm2RoZ3ageHjG/gxAz1TtmdpOouV6iCbTJsj7uZVN/vrbKOQNLYOdQoJTCgTpi48kGYtzn8gsDx2V8ay2Wg0KRTF+I72b",
   "G88C1g6rNzO4hiSRhLFHgg2X4SGoVZcUk+nOj1/1761Oq80sEifr5eMXtUuadVh7gBV6XQ1wLRmW6bKplp+zby9M3kyekG",
   "2chUusLb+7VLYw+8jv8XVbmVQorgsKlAwYgCoh3WMtcUWcgdOT3Kd7eNAVCqvDP+/fbfpCqKsywNFjqQtbBFhJbJC/o5mK",
   "9a+YOwQdgQwNcrQ0/XBbWjPWFchLHZA8AdS3aaMiEQVvnUae2zOJqy8/G5FbYsWcstm77iulLF4xUl4hIAb1fnLw58a7vi",
   "CrjQyxUV3SXz5zrVqin+YPJqbzq9kO/Ol1Dp4j8mbkiMc//OHsby2N2fKQ7fxVfDI+Rqmz70h76SKcvDUwzW1T3ENIstqn",
   "Fl2C8rKUHMmQtYBCOZ1GKsidzfjf6sIOOFn/y/EwWlnPL2n1go4JsMwWgkE5InHGERPPBZFusmYll9MDyrQJNgm9txx89o",
   "3Xu8WvMAkG2xjbcWZQ9H/ZLAqCtkIdVSH2B0s6x7AEE6UN/8P68XWeRHJEOAx647Lnn9rcpyfPkRhYeKHSFuzp2+9+dyRc",
   "0uWQvaK3NHF/cPyoD1+VJkoX0T8QM+202LHT8HFu+Epy6CPyX+UgBzMLCbj2zAjxKFl1kMtwU63j4pGSN9/9f8VUM9NKzT",
   "nhEXPz3XgeGCgDU7X0fL6nxjoWP9E208OORNELWgVot95qcQdi6yNaJJuo8e3QU4oKdR7XsUIEMWUqwdORry9ktTEk92u/",
   "lPnARYjwtCOzrWri5zqtE/fOGa9lvBOThJdosoHuR5mDHcDdV2EptbuOV4RynqVXSFegl4VUQbkLyCiUKcGLU624V7+W44",
   "1Mgqmn26OjJwDfOMItLGHTv5oDeB3zmkTDGU/kY3/v+i/ZhdxQgY5tdqgBFbh0lpMC8VdqqwMlcIEHiyydPw0UCgHcx7Sq",
   "R+eAfIhaJNrF0e8hcf1IxuSFDvMpWTyQMyRW0p9RaLwO/LXzHcT1H1D1bCGRbVsSEvhz1U2STo8nyulLqo29We3rz5Xw82",
   "4PfCQy0HQo8EWF4pJLokhpShuWNbjiL26BDpb1WWK+nb2vKnRbzB7UKic1XfqvpfWRA3IsO5A3IsJLytVjCZqkPOHnv75i",
   "MWpiKuG/bozaUCusr6UoElbWvhv41VVH6KhsMBaIzALdQaUPyA6DHQo0Z449OVhuNmy6MUIHFZXwnOtN04BiPA6kfNjJqc",
   "STxRyBUOFcpRgywXhohWibtbmrk2rK1+Eah5nj78X1jq3FkV/qxPI5go8sZ6UFMT/InPeK45jU9y3Lpl8pVjlcMY4xs2iy",
   "houJs2ZLOcG77AuKdRDBrqHLU6p1CA6jqQpQtLpwGJPUT8snzdCO+G+8slaFPxdbyMNzU+ceOvyBuJhQrr2tNuVu78GrTs",
   "J3m/HF95idYo+8+/gzuueUx8q92D3NHhoBJDxKTGMEMR59KrvVElnC6tk7/7PiB60BcBaqnCUOAXDPhlDMg/hsiSJrEkZd",
   "wpBNqrLqqFkTBVLHuKGWBd7OYAfi3SlOMHMgb5B7w0m1Zdn5y2zK9bgcf68LlpUl8zTUwa2R5pHOaa+LmwdQrY6hY7CINf",
   "hRb3Rt09QuVm+pwQnBg1E24wAuEVJPoOofudaeTCQVCE7g+U3azP2+5m/NxhxM4v086e7YM6E1+feXvddEkd72PrEz2kjX",
   "TOpiaIbdoPgj6sZerHSHE18mo/QviAj2/dBtoiAB5YASs+A3i4KstSk6wRiykgsbaV8UHQ9T15yI3lVr7J2XL6uPh0N+Pe",
   "lXDZk2KxhqOFVS+A4m+zyks1NDhSFhhqr4j/OUbAbor3+Y3THt2GF4tUM615MpKAZC+7LJpdm9Tulg+L69k9aNf/HPe0c6",
   "OUL7aPHmY6cBio42Fp6DQmvcgfR2RxOJ63Hs0xxIhUSXZ4ZdIPeGpVNCEf6qKcZef8DZ5vKSMW1ZhETtd8Iu7bEXWV6cyl",
   "8zZT0HEuGUE+QNICEGKOGMYwpMvByMwa3S5kxvmeG7vDJ4z09cldtGk3Zq4T9HDIWZbam9uDj3KTG8R5/EWnjmlz0UG507",
   "dX54q9VKe2FdKCc1zWnL19DSQXQmcVmZlaK2bp44BGLovOHpatHNv0czT27LXvoMgYh1WsgwI7y3jTwHhd/UyVE4FgRXO2",
   "dJw2An36QRCzglzYDm6MjAJC3B9k6+4mlJ1TliI70RESX7eNMwngn2oUQVuqZ0Jfpx0piFH5UcSll1VzgS97xVgrHBJWgT",
   "OVXXswormphmQyd8Ddq7FL8//A7NbGvYgf5e9JEBlkfRVt/iOYwHrnjGe4q4A65mxgDNMRadFbOLwKP9OUaqDKRzYr+zMc",
   "x6WP2Jf7LcfnV/llZfd21EBuT0CUUNJ4ToRfVNF1FAH6FbtuuJmDIT65pv8SA+ICfztxwrez0bFEO9aG6jAM6TNiHkPK6U",
   "x/U/CYMADMKgwy/4I5FNIe3ewnfBcrqMbTjX/wGYXPB6xCEkooRKEQJrY28rM7fxgLmdxTGiByyj6g44HZab/9DixThP3L",
   "BYV/5PbK9rkEgSBzRSLBA0+uzq9speYytvYoR/LOKb4KpeLdxlUrdZGrCr4Avk7MXgq5amNPH047sVYuiZwJtreeVfhWrR",
   "68b+Cdl2uJC8doreK84euZrIYn/bt7j+uTZ5rzzAHyV42eRs/75EJh8/ivXHwMrTT5QgWOjb7gk3MdQ4LlO13OelYlv4an",
   "hrUOV88tF0ucaQRtGjwLW6W4qGIMJNGJQ9RlT2Dz2CaJmQ3QtiKr8qasDawg6PPL7U2rxbBCMVvKwkObb7sp7Q6/xq1q/g",
   "30YiCRCMiuyrlVEgF2DQyomiFCLe1sl2KuPt6VM7/s9VlA03MNiJI9DCWk2ahwHDTkZJ27WA+SRLR7NFmKr0SY5pEwm2Kj",
   "0f3vgnV7iK/46yjAJnYBky+BowhzkDQCIUwKe7AOmOFLoUl4d8IvUV88Cbof/2CF8RTJEP4I6TPt06kvjVqKIe0VYF6YLS",
   "cSlnjr33Iqi08PThbg80VAny2dEhGNeJAWbQwskP9DkRg7SExmA6vLGbNc0c4MQTiE58vvBEt0czxB6QdXiTBBUgBv00f7",
   "IOsekLw+cLvF2NwvmNBhtv8eDab66O703nxsNHZVXF7Y0UqyclUvLe7rsYhtrykMNjn3sRdcCS4wo/hmO1N7GP5b5Ts5N5",
   "u8Zq7inCXaprWcvy2+v47Wl8UYktFS5Xef730qOSdGsGjMi2+q+Sb/HIrUtsriKtFHr7ByK4p7gHsyzOSPqCdCZFqW17ck",
   "3H8Nug115SuJrdON5ASd4VjgHzXNwNZAtKCa3Z8Pa4z6xXt9wS7JxpkWLIEEqjPvBvb/S7S+cIBCbumthF4BCXMGZbn92H",
   "MCkH0yMWInT2fybWltjbAWe7oqGyebsH4RIe35ljbUrhLmuURFQgNuEdsMOo/8qUNuj64lLLEQKSizvrq+leyVUyL2NgyV",
   "wvNMdI22Fqb3v2y7PvXzLcwWUd1BJwP/EzNcP2PD9gUtB42omMac9o5+GhaVjlWFwk6+ckbLqfCiyy8UOKJIApn99JeAHi",
   "RsN+QqIo90/YmQaVRNtAeK/YDAscG29IZYfxr2oJ8Q1L0bpHojPtLjKTT4s8r/kseDtzIoD6apFnZqJXBngAfgIXCtI0Ks",
   "mWEzNnAHtfP0BoyI/FYjdY10H4s/2/kskXasJhsQfOENuYv6Yh/7mAGbRakaPfaORm+oQocgRJhL73eBTNEv1Ti4cjhvgB",
   "Un0OpwvlmGhjeLh5WDgIgZDYF8FunGMfaZzftRDqJDoEZ4hRchKbyDoXQj6nQQzs8U6Er94yU5xxftSFFWeRFOfdIVCJgK",
   "4SLJk3zmMQYC+v/69pEaVdF2DNRSgbCYw1Iuvjm0jg59leqKovmZYhZqxecs5Wh7DYHX3KC28sccajVypMSt2LnLvcZ+8B",
   "dZBWZuwhKI0uwt/zmOeTtTv6pMvV3CGS6uoJrwAn50FFDvkSyXkMmwcdt2P5jPiVodhAzmvcCMtOyl1wIxDYBMn3Xqlk7c",
   "X1y6XX5iXrlEGF2M7lQJ8655Dc4vPAdAR5q9RnskzQKnh3cG8sVW24f33NWNylN1/3gRNE4UInsiY9ISqW9TelADyPhVLd",
   "IwEhwPu9F1SBwQHRi8N9eOm8bdc0hMNxGG2mnQd1HAL9WfceSdj2MJ78sUwYwpEtZnrNvPSylaBEvphJ7IJFS66s98lfKk",
   "LxEFsG178ZK3Wx+QvtRzD2/0NW/w3/frZvWTs/76S8Li/7FZpE3bxc9tHnkbLZf2eAXeE5gEq4C+Mb76LjLOl9S9oxEH9c",
   "R/Iie1GUSenNaFisrLn/wthXad7dQf0ds7m3/J1pl8Rjf8rflrvLfSq5r5wg5QUpxAjnLsXMOm8rgLZb0Mxe5bGfmYYf2S",
   "IxxnuhDoBwu9lF39Yh0sDRdYnpJS/iNtRiK620gefuuBT58e6+LWcwUgFDndYhJEGeginRW60fC4H6vWTI8jh6qV3eZOsL",
   "nR1nmUVklupkAcrkCUww8TiEmYVSj1cDqYwP/zC6caNZKS8x/R02qenF2QfVviahC38Akz0qCWJurMAU0gvLmNq1g7TmER",
   "81c5xTLYWl3MEPqEH+fi4MTpEEaboH2R0ea7qg4fpraG0WnACggoNqTHtOYYthBnxyv/gFiM24Nuk/GYAQVKSLD4E/tC6X",
   "rUYm2tZBNGiBcqvfill5y6VdMaGXMe5F9De7MKB+MOajf6yz/9uMD5/Hl9qh9o2DaGyY6ArPto/62UtkwpRFE4AZGX167K",
   "QpqQn5jRa5ZaO0nDvHQx+z9a6M+S2EZ//9ZVOa"]

/-- How they are packed. -/
def properties : Lzma.Properties := ⟨2, 0, 1⟩

/-- The window in which they are packed: all of them. -/
def window : Nat := 0x20000

/-- How many bytes all words have. -/
def size : Nat := 122784

/-- All words, one after another. -/
def all : Thunk ByteArray :=
  ⟨fun _ =>
    let bytes := unpackDigits .empty (packed.flatMap String.toList)
    (Lzma.trace properties window (some size) size bytes 0).written⟩

/-- For each length from zero, how many bits choose a word of that length. -/
def bits : List Nat :=
  [0, 0, 0, 0, 10, 10, 11, 11, 10, 10, 10, 10, 10, 9, 9, 8, 7, 7, 8, 7, 7, 6, 6, 5, 5]

/-- The number of words of some length. -/
def count (length : Nat) : Nat :=
  let width := (bits[length]?).getD 0
  if width = 0 then 0 else Nat.pow 2 width

/-- The place of the words of some length. -/
def place (length : Nat) : Nat :=
  (List.range length).foldr (fun shorter n => shorter * count shorter + n) 0

/-- A word of some length, if there are so many. -/
def word? (length index : Nat) : Option (List UInt8) :=
  if count length ≤ index then none
  else some (Bytes.slice all.get (place length + index * length) length)

end Words

/-! ## Forms of words -/

/-- How a word is changed. -/
inductive Change
  | plain
  | dropFirst (n : Nat)
  | dropLast (n : Nat)
  | firstCapital
  | capitals

/-- A form: the text before the word, its change, and the text after it. -/
structure Form where
  before : String
  change : Change
  after : String

namespace Form

/-- Makes the first letter a capital; gives what is changed and the rest. A letter has
    up to three bytes, as the first of them tells. -/
def capital : List UInt8 → List UInt8 × List UInt8
  | [] => ([], [])
  | b :: rest =>
    if b < 0xC0 then ([if 0x61 ≤ b && b ≤ 0x7A then b ^^^ 0x20 else b], rest)
    else if b < 0xE0 then (b :: (rest.take 1).map (· ^^^ 0x20), rest.drop 1)
    else (b :: rest.take 1 ++ ((rest.drop 1).take 1).map (· ^^^ 5), rest.drop 2)

/-- Makes all letters capitals. Each has a byte, so `fuel` is their number. -/
def capitals : (fuel : Nat) → List UInt8 → List UInt8
  | 0, bytes => bytes
  | fuel + 1, bytes =>
    let (first, rest) := capital bytes
    first ++ capitals fuel rest

/-- A changed word. -/
def changed (word : List UInt8) : Change → List UInt8
  | .plain => word
  | .dropFirst n => word.drop n
  | .dropLast n => word.take (word.length - n)
  | .firstCapital => let (first, rest) := capital word; first ++ rest
  | .capitals => capitals word.length word

/-- A word in some form. -/
def apply (f : Form) (word : List UInt8) : List UInt8 :=
  Bytes.toList f.before.toUTF8 ++ changed word f.change ++ Bytes.toList f.after.toUTF8

/-- All forms. -/
def all : List Form :=
  [⟨"", .plain, ""⟩, ⟨"", .plain, " "⟩, ⟨" ", .plain, " "⟩, ⟨"", .dropFirst 1, ""⟩,
   ⟨"", .firstCapital, " "⟩, ⟨"", .plain, " the "⟩, ⟨" ", .plain, ""⟩, ⟨"s ", .plain, " "⟩,
   ⟨"", .plain, " of "⟩, ⟨"", .firstCapital, ""⟩, ⟨"", .plain, " and "⟩, ⟨"", .dropFirst 2, ""⟩,
   ⟨"", .dropLast 1, ""⟩, ⟨", ", .plain, " "⟩, ⟨"", .plain, ", "⟩, ⟨" ", .firstCapital, " "⟩,
   ⟨"", .plain, " in "⟩, ⟨"", .plain, " to "⟩, ⟨"e ", .plain, " "⟩, ⟨"", .plain, "\""⟩,
   ⟨"", .plain, "."⟩, ⟨"", .plain, "\">"⟩, ⟨"", .plain, "\n"⟩, ⟨"", .dropLast 3, ""⟩,
   ⟨"", .plain, "]"⟩, ⟨"", .plain, " for "⟩, ⟨"", .dropFirst 3, ""⟩, ⟨"", .dropLast 2, ""⟩,
   ⟨"", .plain, " a "⟩, ⟨"", .plain, " that "⟩, ⟨" ", .firstCapital, ""⟩, ⟨"", .plain, ". "⟩,
   ⟨".", .plain, ""⟩, ⟨" ", .plain, ", "⟩, ⟨"", .dropFirst 4, ""⟩, ⟨"", .plain, " with "⟩,
   ⟨"", .plain, "'"⟩, ⟨"", .plain, " from "⟩, ⟨"", .plain, " by "⟩, ⟨"", .dropFirst 5, ""⟩,
   ⟨"", .dropFirst 6, ""⟩, ⟨" the ", .plain, ""⟩, ⟨"", .dropLast 4, ""⟩, ⟨"", .plain, ". The "⟩,
   ⟨"", .capitals, ""⟩, ⟨"", .plain, " on "⟩, ⟨"", .plain, " as "⟩, ⟨"", .plain, " is "⟩,
   ⟨"", .dropLast 7, ""⟩, ⟨"", .dropLast 1, "ing "⟩, ⟨"", .plain, "\n\t"⟩, ⟨"", .plain, ":"⟩,
   ⟨" ", .plain, ". "⟩, ⟨"", .plain, "ed "⟩, ⟨"", .dropFirst 9, ""⟩, ⟨"", .dropFirst 7, ""⟩,
   ⟨"", .dropLast 6, ""⟩, ⟨"", .plain, "("⟩, ⟨"", .firstCapital, ", "⟩, ⟨"", .dropLast 8, ""⟩,
   ⟨"", .plain, " at "⟩, ⟨"", .plain, "ly "⟩, ⟨" the ", .plain, " of "⟩, ⟨"", .dropLast 5, ""⟩,
   ⟨"", .dropLast 9, ""⟩, ⟨" ", .firstCapital, ", "⟩, ⟨"", .firstCapital, "\""⟩, ⟨".", .plain, "("⟩,
   ⟨"", .capitals, " "⟩, ⟨"", .firstCapital, "\">"⟩, ⟨"", .plain, "=\""⟩, ⟨" ", .plain, "."⟩,
   ⟨".com/", .plain, ""⟩, ⟨" the ", .plain, " of the "⟩, ⟨"", .firstCapital, "'"⟩,
   ⟨"", .plain, ". This "⟩, ⟨"", .plain, ","⟩, ⟨".", .plain, " "⟩, ⟨"", .firstCapital, "("⟩,
   ⟨"", .firstCapital, "."⟩, ⟨"", .plain, " not "⟩, ⟨" ", .plain, "=\""⟩, ⟨"", .plain, "er "⟩,
   ⟨" ", .capitals, " "⟩, ⟨"", .plain, "al "⟩, ⟨" ", .capitals, ""⟩, ⟨"", .plain, "='"⟩,
   ⟨"", .capitals, "\""⟩, ⟨"", .firstCapital, ". "⟩, ⟨" ", .plain, "("⟩, ⟨"", .plain, "ful "⟩,
   ⟨" ", .firstCapital, ". "⟩, ⟨"", .plain, "ive "⟩, ⟨"", .plain, "less "⟩, ⟨"", .capitals, "'"⟩,
   ⟨"", .plain, "est "⟩, ⟨" ", .firstCapital, "."⟩, ⟨"", .capitals, "\">"⟩, ⟨" ", .plain, "='"⟩,
   ⟨"", .firstCapital, ","⟩, ⟨"", .plain, "ize "⟩, ⟨"", .capitals, "."⟩, ⟨"\u00A0", .plain, ""⟩,
   ⟨" ", .plain, ","⟩, ⟨"", .firstCapital, "=\""⟩, ⟨"", .capitals, "=\""⟩, ⟨"", .plain, "ous "⟩,
   ⟨"", .capitals, ", "⟩, ⟨"", .firstCapital, "='"⟩, ⟨" ", .firstCapital, ","⟩,
   ⟨" ", .capitals, "=\""⟩, ⟨" ", .capitals, ", "⟩, ⟨"", .capitals, ","⟩, ⟨"", .capitals, "("⟩,
   ⟨"", .capitals, ". "⟩, ⟨" ", .capitals, "."⟩, ⟨"", .capitals, "='"⟩, ⟨" ", .capitals, ". "⟩,
   ⟨" ", .firstCapital, "=\""⟩, ⟨" ", .capitals, "='"⟩, ⟨" ", .firstCapital, "='"⟩]

end Form

end Abacus.Coding.Brotli
