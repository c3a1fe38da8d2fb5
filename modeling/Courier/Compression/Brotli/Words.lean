/-
  This file holds the words of the static dictionary of Brotli:
  122784 bytes, packed as DEFLATE data that is written in base
  64. The words of one length stand together, shortest first.

  Key definitions include:
    * `Brotli.packedWords`
-/

namespace Courier.Compression.Brotli

/- The packed words; the ends of the lines mean nothing. -/
def packedWords : String :=
  "
  HJbtbtzGFYZ/V4DvYS3Hlja2VruSLNm7qoy4VmqnrmxE66BRYARDziE5y+EMMzNc
  ikIE5CL6p7fRS+ilBP28iz6MAWElL3nmzPt1TjKNaN87awqxUqRM5XXutWiVVKx8
  750dokmSmzT4Vtymi8maWoog0vtQJ7lNg6jgtxIyrwfLL4UPTeZ93Vo1WLMVa5xU
  YtvKNxKNlsaH8V1tvStTJc3WSF8Yp1tVcu4Qi87aSpROEhpReaWCqCL4JoVOGhVq
  lVnpWu8qU1b0KVY57aSPshXn6CdXUTKfqtbH1EXRjdJS8UwlnFup5FQj742rM+vL
  aO4k43n647ma+sbxTtibTp5W3mpxOvYmVVfUpw3dUyOa0iWerdRWSmpFEZcra1uV
  ql74tF1sxHWFsU2rQtp441JlojUxld7Tq+iee/YS+S6LDXdXNnra8cHkFedHq2JK
  orhuMxS8UxtX9sZa4f97FXTGu4UJ8hHMaud7RcFZ68oG/BOXtV7pEuyj2ML5JE2X
  V4WMWLgh+Lw2uXfe5WLhqYITbUS/hZ/QWanATW3UrXGFz22XWdVHKzFWyhZx5JBa
  d97JYj5/zEfMIWiNjoLKJbMd/HehF6kL/q4QTQlOkAjf9F6JA5O6lja1KlLUtMH7
  5u36z+/Ri1sPLXqkKO/UIm1hVYl+atDRBfdJ9BvgPKHZTde0CbQ09eiB71EwWqT7
  oQYrcEgFvKguebQRZjkaUrZG1+0WTDT1G7QOoyl1wWWeH3SCE2zwUbpg9yPAB2+F
  V5FiisANtwKPVs82bYk1mq0KA+8ktOwigtHBt9+h6dy3w2I23z0/VBcxAYSFDcNh
  4NPis1lpCjBIeYyvyqAGTnBPyrQK8EGPyXLPqAzllOaMCfzZja8cGqlbH7hbTHuf
  vjrQ6PL8MLtovQ/ZeG8w/DS7nvXopsGvR+3t6h1cBuXqntq9cmjIjmLSP8w/r1rV
  2R68Yxfki/29R70yqYEbtBdLL7HEE1BTtvTy8OBgYtFP50yCt7FOjQ6bnvy4bexu
  HD3NFY/m7S3Q0XvPfb0tvKOmsVEVfEtl1cacHAjULqzvM5UNsVUu4osT+j3lB+tE
  tJ/wne1NbciEFBPCCYbrl4cWD/ai6gQXX5M5+B5MXITDGrqH0Lm46exAktUL6pVe
  2ZIIiJwnuhSjf78bJcXnfDfbxFcn9GyKyX70Hh7JCXSYukzuZFSDow/RaDrhZg91
  yCs0ixftbU4GVOCe0ccdWt56QFZxCHgWTdqWHg145ej/mLM2cJ9UGTOTItqymC/V
  BJhDu+cAXALaN9cfrnSXhqsxX5SVwXfgnoDIuI26u8vHbBokFiZWfd/PgonUzGIb
  ZLvgHvwtR1zsNX7U9HE8nz/L4BwV0FtwZInO/O2sUCZY+gGvsXbYdNxZ8soU+w9b
  dCZbY7/Y30UTobG8q9FDSz4/m8/n4y11UH3VYYrWp6JzOsNHVZCCZLG1DDFRo0Lv
  eJ9cF7tAjLEziVftt9fXu2Pkw8nwx8v1LpiJMmhubMnoCLQrp7ZDiSGSaeOjly9f
  0gfZqAf8HqeryX1bta/Ibouvbc+AuauW//ry8MHOhHAir+xsZ+erM+q0XayYJAlo
  Vjka+PLw/LBiwp2BERmTAhk2efJkwjSx8Ml0QVU00RgyqjZtgn9mFPPBSolmWsg4
  AdMHOw928lHfZMKMZs6zcCEYtIHrsjPktIWoyNGYRI2J5JtD05RPHr04sh2zlrpA
  uUJUQ4neqtSMKWF16Mqvv728dOSTA8NXiNWOKgT77TgD8Bb4TdB/CGKHjBkU0Yru
  anEqqly10qONsrPF+uh4WaE1dJ9KMoXwZ/Z1gbwaFtx/b2+6mq52L5pIaBn8Y4KO
  5EsmOIccXy9eLKE+jgbg/vYUEAv08Osvf4uZHyIZMqPE7scP1+uMfmq4m67u7xle
  A7jp/U9/mv7UKQ03/z5g4B7wj9BveecBe0daL14utyYn/fSgJUsXXIwss07GPn2/
  XpwuNdkmW2XXi7OlBX90ixyVbfGP81uFH2IpTia//vLX6AuyqZFkfsvxeF4dk41d
  KNgDWmbJeQoXzFwz/fnhPp9CX//N0BP5Eubz6aoxtp4cHFyY4B17jtZ4q4en6I1t
  uxQPN/GQ3WBYHx0t312/vlofzZdKqwasOOvoYkMI7j2b7DFi0/posZxwH+YsUW9U
  Q7acH7YX0Xf2/burS/zIvhLA4GR5Xi0uXoAtEXD+Ep2u5yfLhl1reXJ6gwbEuLz6
  np0LeY09/3NvOkXXAU5KYaYiLcfe4/Ty+OzmR1/8uPd5ukJbz3j2P4lMHMa9wfc2
  wwvL56c336itOua8nZ/vdx7/4fjx8vjkZiNFcfmXj+/I0mprGHdIO7JfUON/P3Xj
  DMUP6IdZlcBulqFDjV4rdhHygh3JpeXx6c3b9frjwdF8UXgmNTUur95Mbgmc5fOT
  m9cf3nyvqbHaud+RW8Pzz2+YbxHtpL376YpdJGH1lWKbu78/P/zBfJ69Z/7UzT/+
  3nNOQnNK60haWOx4u9r53T2R5R1czhgM8/nzKVgMG6I+IiocS876Aiymk6P5HI3j
  YcBg/WNPxRNhyOE1DShL2CmMdzOGWc6cKzmXmTh7Dk4fq9kb8oBV77f9yuHrGq0w
  aZRjHt6ikxzd72hmbm5NOyV8zngPHOZvvnsTzz5fnCd8OW7A5unTaQ9vLBn+/yyZ
  X48T1xnGr1lpv4PrSumuFGyvjf+AF1eUQNqKSiSQVlUUoTMzx/bsjmeGc2bYnQJS
  wrKQwl1Vqb0o/V8lbYUKKaSJAvSCL+C9W3+Hfoj+niGgs+sdv/PnnPO+z/s8z+Q0
  jywvaPmJvXjuPU+epCe7g6uJ8Jxc/+D9S42gTODl2e749vraDy+ce4ea2zRBAF6b
  dGPr9Ah+NhcobLdjcgssKcWj4Qlxbm+dXPtOp9PdTCH6H259NP7wo/HapWzWoK8U
  62snTtAvZ/TURQA+bd5cX+soJ9iH3ezM/8A11nqy7s+02w1OBBXFb2cbmzfXCG3Q
  N7/H9PKoNPQ/U7R+fPndTTb2epkV/F6jxkHI2+ukwilGnzFgDBkjxulup/6/xegy
  egziusR1iesS1yWuS1yPuB5xPeJ6xPWI6xHXI66n63Fsi++2iNkitsM5Hc7t8F2H
  mA6xHc7hAiwGgzh+kGiMEWPIGDD6jFOMHqPL2GIQNyJuRNyIuBFxI+JGxI2IGxE3
  Im5E3JC4IXFD4obEDYkbEjckbkjckLghcQPiBsQNiBsQNyBuQNyAuAFxA+IGxPWJ
  6xPXJ65PXJ+4PnF94vrE9YnrM+OOZn1qq3eatsTk+QdnzRav/4SaKKxIVw6PKbIo
  m8PLQwDLvH6aBTEA/fqxMf714xtxRN/wYlwZuJRJkfDZhOxtFO9kaLcMnprSi6Uo
  QFMqNpll18vXfxerTbkmPQIqQOXQgwKzo/spnTMzK01eQjHTjJKEe4NhSRmr1SFy
  qgw9YQBHl8fcP+CeiQKSLIoz6sLpueLlf5ZPli8Zr5Yvjj5ePjn6+Ojg6E597Pny
  vxx9xV9fEfWSz8/qv14tv+S7Vxz56uhw+YjY5/x/evSQKzxc/uro4dEnfPsFn7/g
  9yNdY/l0+Qd+fsOVOGv5x+VfOf58+Tti7xD3+/roC67/ZPkbxq8Zj44OOP6U+z1f
  /pb7P19+vXzJsRf8/zPnHSy/XH2yenD8l9W91eHxZ4yvVweru/z96fHT43/xzWd8
  /8vV/dWnq7urQ8YBR/T5/vHnx//m893jv3Hu/foaD1Z3OOc+x/7JlT7Xpzr2AZ/v
  EqvfB8fP6qseEn+4unf8D449IObe8eP6jEO+ecbdn8HdfcHG2yxBTRfIcnQwuwOr
  k+oX5QjED52+9er+UvbQH3IIbRGH0xjlLFLpcslcWjQsD7UFI0OmAwkugv95C6kt
  czkGXnaBJx0l4pD7e3yQZHNvABhiKOWOzs5BdLgP97XOIYxTeq8JsrKQLwCxLBKp
  waSW/QWaBDRDhMIO3ay2F3ytzZU9os0hsjQsfYjocRJ9SSAZI4qGBqmzzMiVQLcb
  6Z0F965idVa5BR76nUqH6vLcHrZBn4EOwQ9o8m9BGMfMA4mdudDmatAS0nS0WZya
  KWfQS+MCLllauRl8Aa+hddr9IoO6iiFzZY5yblpA4r0PyjgpaulLE7CwrzKqKMZI
  8jqNvKQmv1m6OVJYlounNGlrtGOCoT6yAiL5FCmrdsPCcv18Gu8jr3mgNIP9OTkv
  cFN4Fj3SJA6B7aRo/fWS/syS5HZeLkxKl5Z1Edf+At2Zbh8FVGSItAkFLaw4HH2e
  oIvSWvzsATVWho6Xm+IjXRqIcDZg+qj5spgjkziX23kWu5jvyZ7RpCNSLxQXK7Sc
  5aJATwhUXCEzpToPMuxKwTl5S2woSjUxlRXzcJXuUZW1TNcyhSxswea5BqRWeZWX
  ueSxN3meVD/S/gbwqlmZA47ySZRNXIU19ZLjng1yABRbKyDcldUimSbCDTXwJafl
  pj6Xyyu3UrkuqZJG3pGNripZ9eD+XVUA0JbCD+TmZCzs1JC/8pUqU5KE2i3P9BMr
  r6KtCUZys3wE3a1QZYnEkil2SuRrMZdHga70qR46kE0QZvITZMZpglaOiA+rUD8h
  xzJYvJB1d0/bDJ+zaR7bULQ+TqZM1EpWqvLo8/ECyWqUHTEiULSHcFJZlp1V9lB+
  ZTgPtM4uq2BFfteyebAY5qe0oMAaWgnIejGvd1TsqsqmU1IizHKrxURiUeKwB+30
  G1cOWHDyQ+gfrnBiUwYtzlSzlA2tQQaJIbp7RZBxSVlHruZVFoZITTstzsDb/Zws
  LrQGSEoVjnw3XzrozlS3VAKz0VqrssjG7E5hW9JfCxUJYs8kP1fmeG7GVGG3LPEe
  R7mvZG8KCsYyJ8L5+7qerEgQ0oVzkR8rp8/LZvRRVgYoqSoNC6pJKjzbYy/ttFIZ
  oF6QxdKlZMINNpTalVvpz6surwi5RLyrndppREcl8LzQdqTArwg2c+ozke8CyRUi
  1EiNgBeYvzFBvZweL0vOG5kTbJ63Yq7C8bR+aDYgZwn5s5DF6uWx6dtKBYYmZ/O9
  vF4Bt1N1pzMEdG+iLZuJdLcXJfirTY4uqziJS6MiA32gEXG0IQM0kCMix09XmSLS
  YqV3ktSObzX91l9DNBHbaLeRYCaSQJtVeXFBKC+1Or6gZJUX3Ayl7kDHtKitXORF
  c6IihvGbGzIxUMLxL6yfQTwKHvfUxGUyhvm20gXernuHKE0UOvWOeIaI3gOhI0MC
  syDeTuTI2PTaB1fe+m7v9Fhcd/+akppGwKOlO2T+jtlvGakGT8nMZb015B2LvIOn
  Kd00NTeaE5kAae16yU0kLVgN8D5zV9R7xDLZQUBBPrHfMXkNDwmyOybnqBRn1HKY
  R3di0HBwL4qRKnKmebLd/pksUC8fyss49pdVxMyymKvnpTInvu95gILiVQpCvoRw
  hezXKTtjaWV7zQnrT2G7UhhLo/+p+vlFIUMrtYW2ZA35XDVursmRlGPuZWspVVjt
  iBy4rsUuXO0ZBpmT8Q928LiArXyRQllpY9eVpKr9bHl6/rwKm+oG4YToek/gZSjJ
  CGWt5XkvVC7qasLT2Nf2dlQKmu2+8VNHtcseefvWrVqo5E2elc2TLdHMZC9sB649
  mTIv5+XJRTYv5o03bwAo01Aor7cNtXk5BmNmqWwqv6en0tOOAZezTdnXtCxm9BNm
  3mi1WtttqGs6CzRpvQRpyDkc67UC6e1cBVqQ7HaqXjGz1/QepLVQbkBDDN+yXbne
  oNQvCrbbhZvI/vF6+IYhQwRAkroJELZPlcg0mOstjVfDDeU1Nzwg7qFqaW0N+8YG
  mSoTPbomDiHr09fcXSm0W7+JqYtRdR7JBBjvqZ0wN283NsfNxg9Ejzi13N+RHZ+D
  iYlMnsnmOJ5unBTIRgbiCL3y9qKoFbPXe5d966+qVdIkNBm7mATGNSct78KzhZAB
  ADvbDMUO5+Ra1T1VQ19R5jF5WYmH5RQ9kyA1aq/aCztaALrV6wObyB/07dD7tt5A
  jPWKAkApp9Mg5qJy9r3sv84ulWbQsetrcvXhNLa0Zxs3b49HtQuoVyo3pX+NXjaF
  mm9MWs31eqvhVM8iqV7OcrMy8yzblFl+TgxUb6s8hbg1QQOVMxnMtUo/K83ib2+y
  gjI6x7lQRZai1/sF39kfdDp6a9CsfdxAraMwLNgiBsrE3hIKbLstc5kZAU4ntXlK
  qRbzWDuxUJE00PunL557b7vtspl10/+TaD69cSNHFL8L8HfgchFnjXgmlpIAC0sa
  wPbauwbi9cZyECCXoIfdQ/aIZFNsUjJtXZJ8Eh/34EPgW67zUfJF8n41BwH6N2R1
  ddWrV68KWf8FOXOGYMqQJ6MkXSgxpwktPp9hiyhYf/2ouL8vWpRBpjntt08EaYXC
  qWBu5+/wOAB3vndP//evHBXVFyj3o6jDwthD/Rv0Vw4bJurMc7DzUfHNZeHhrKge
  SC2dytF1WDq1ly0TtTUydjHAnZXT/YKSmGE45SnuuIOQo2B1V++fvXtPbBVRPLZ/
  XKiXR044geCub6PIgEmpwpdeeakqwwAMap36gfwlZ07SSryFqYSNWjKVskB861Fd
  PjmftuG3XGb0l6dPKAjnjOuK9dm6iwzRSmRvUQ1dzws411ZwGM6wVJf86Hd8c4+I
  rfxTJW5I8dOzJ2VBiRX0bR6cUCAufRQJIOP1Bzkc7Dz5drfbKYlEWWB4JfRBxVof
  e4T6fGq5IJ419EfBWf0QV/FvRhUVTiw5tE2H8kq5tvI0WicP2+kc5TU//eP3f79g
  drsaZyUak6eCAim2fm2twpAvi7I8VzFQPcJrp0wkBP+uR0ZPoOFluvzN2asCNFJr
  vg0XsasLfZWbx8Vun/muKPHfm/dpeM7EruzDXbv8oDu5rj4G48qxhSuTJH/a7NxN
  ufnYrKr+9Iluc3VaPjqHhV8yLVR9m9sFLMmISefy3sU3KBZtwdBDxe6B3X6xp5cg
  4wtua63MfXByBy9h9pFn4MYz6tgqaa4nckt5VBbMaMWfZRoiiPL7RjE6py7mpF5E
  GOqDzXZQRvIw04Ae/pMQTQ6fpyjEFQuYHJqI0Ximk4rMWTiDjjJimtPDOkGq6Gqn
  kpXczXz4gqqS8+Frm9wye7cLjB9QQ0SMJvrMJKumlFFYskUwM9rkUDvauWZEtiRG
  k0cBRB6BASguMpoq9jkZdPiSscWJoM3eRBu69yTmG3r4ovomT8JC9sJ4+CxaxImr
  OO5TNtnGjTArUYt5SA0yqoWB3qaaIWqeVN5d7hnjQ80CR3XKwMBoLZoOJCipotuJ
  WjI+iqJ7cuwgpEjbWceEXY9OIdbyo4NFiuWMH/XcLU2cTFAY6EWHr13ikGnPj+I1
  h/82/As+WET/K9fNe3FksaFxN1NI9KJUqz9wsRYvvsUvCFgifHI+dyn3dnqPYkv1
  WneHZNX3SQAmAlXJZmUPEmyWcyKiVKNKNuYk0itPyatKxsPXXsj1MSEsmDaVb7HZ
  DWmRpT0kSwnH71KldB5tfKQeSbYAIhUfQ9bKqCQ9QdMfPtPzReuB1DspjCoz19FL
  tsSGzq4+QGbIG2LXAZocBlVilUUeo0+zC4EsJnaLiqYYqluUN14tR3ROkEx3fHRg
  HxXVN8d3ZEcTVKUGUe82ur3AVwz68Cs1h5Af1RMrbvZO4a14VvvlWipyaANtsNic
  szsUWU25nRnX65L1qBa/6RN02CM6oQUSawwVg85bvVxWKUh8uhVnysh+2XXbxNDW
  83/RwW0tF1ye1bWLIO/lXWE/TZyOFysnZxy+7BOv0pW5YDkFFCgN4pjn0GJByjtT
  bFAYuW47IH5U544exa06dWQJWuaI3Yna0IbI+sU2tUiY8pqCUOQLgw7/tHur2IPR
  J9RrKBh4IgZ95qb1AOZSSJ8gyK9EJ8lOnugkFCUHYdZ3lfVbkxJejwJZFGuL/KZL
  ajuxywSBNDGVtkIMJepYHF/YpcjWIQT4YIn4/GBirDVszkAtR8a4XBn9hoi5gEe/
  Dsg3e5hjcEiy+SG96rlPVGk9WAUf0jMfRTXFUEacWzLmW7nYMpQZx2A0vGJ6PQ80
  vgo9NbZgz9ypbOlTvVpdkAdaowhUZzDMW9VLfYp9GfGpTJx3SsHRsSSEOJaVp2Ol
  A402ZB1NcVJXEYxKBFZxqsbkCd0PouMYalkVJ/ZclLbqlLBTuZvauevptEbBIh23
  CYabEFEuRKTrqdkJ39R2jkjgcpx4naJYWEsW6wDB1LG56+QBOvMR7wY/HMWmD2rP
  /CCsqxYrARNdPikqCn9EE9VdIYm6OXGJ2ltzaUJXNpFQTCrqpu+sXR+CgjGQePUi
  hJzhuggJOyX3yJ6RnlBZJKXdTjRYaSgDERBVYudthwyBFmgia54Htn/E0Vq1S8hE
  3gRe0bOGSfVsz28UqXcKGp3UNNv8drsP1WSyYD6qvQprYUvVjLa31clCBTyaXWMx
  1lNsZafOKLhXqHFW5dvN7BDyJjAHgS0jQHKDnMJ2WhhUyX61lXTZ8lViuKwOSs+R
  6/8M5ug4E6KUfAtsdzD4IGwObA0FP6W6boPJ0IprpsfEbawqFVJFEbyqW6hkd26a
  1I3Y8HramcjdGLdku6ncsNMWvOJ9N7eWyYv1qqaYcO+KBcVWJXNAp/qoQ+bwoWIN
  BQWg5l5lT2PO2KnMTyaJHxXurPuSbSoOqk/seaTxlsgM78xjpLkCjKSEXFCHK50k
  sz0gwm2XURaQP0SZMNWm8JBTBJBiUuxsB0lYBKFtZ0CDWlypTSZbY2/7do5oeWHi
  XbJbNj1XqOJ9G14ygQQO7xAwa1ctneW4LnuuG3a7gpHtgAZfxx67nSpT5F0qCBVc
  XABiswJvOhnUnt0Xh/3J5qkWP4u1iKxDqMxV9JvCAeV74wNIPVosKWPhALPgYurY
  FVyiKZOWa8Gk+/yzYYufwYejmmizg8zWV/BQiqOwpFYotspcea9GbWe+u7XcQcpj
  G0upk3807EKTpTNCWa3MV1tTWcViRzcoDnR7Ry1M4EGci9JNi05B7A3qHKfV0YgB
  vO1Y+alRHFXgZ8GxsJ79FpEfPfuqGuMwyQbEeYKUrkaQ5yOZihBG2HPGlakI8qP8
  oCgUIDiLASYpwSOuBP/CfCgHI6A1iBWuZb+QfcKyUH8j3MAn6t0/odrIwF38kGxc
  8JPF+Zr1mO8qgQcRAL8QXdPhWyfW1bwzJJzsRMwxyPNJGOQt/p9bpqv7mKfFpGHw
  rU7TlSGYA+nF1CyihUpYe6wI1hFP3OAY+MsbQ3irQopt5PkrqwUG8xkLgn/Yb/Nw
  jqifgzXiBaW69xfItgXz8WjzmstSySpuYdt94kq3tj1BN/S0eN+EwqOo1TaXys9f
  /vj65+KNUoK6jFBfWT/QGDI7ayle21sAnim/7HTZ4cqwVPmubPD6uZqOYwHljjL9
  yvJifXLytjdRJ3halnLzi3h4HEzMyo1tJujW9IS3hhKj+d6COPemJ14Z2viAaIN8
  2y7Fd2Fdr7ehYe8iESc6iAKHOUCwLUB9MXUyaXfK0EI7VczH8ZP/Aw3+PZTOO9TW
  amECpCJnu69q6D+ypQfaW/xstmER+q1M/wedhsmqoYfP9OFVSggCju1PE0RO/gFk
  l6bAGg7nXBa/Vw+3tm4s2WaqRcL49gPbaNinCxaaxVvL3H5nW1Y/HOVY+tHSDQPV
  TMlTbmy4mNlxvc5sAFsLVqHYqtrozLI2PFNRF0vEbZBg3ecvVmEvtqNsuaO4jDal
  M10m+Pt7ZCHOX27isYopx9xC5pcbdo2EJ6FX/ylcm8EQkbjeZP58ijJ4b+UHH+pX
  Nk0pUW70doLonJM4q2WuPbUZA79RkI8MSnZyx/TUhIfCJl7rZ1YFbLCU83HcB274
  n47iPnrg+Nf3r1bflzZ6LJ5bFVgXfxO7YVAYk+nF4m89u0Gj2Oa0/8tsmyrEp2kt
  YlAC+EksSHmgzqbmxklNVJLiU8yjk6PdYuyl0itRDctNY4iBMxjmkd82Qso2Tz03
  N3gTXy/UKVh2c4erFZutQqg4LToM2yL6vJtNDStObZqRthP6NDwtO5O6Hhev+wqh
  5P88W9tuG9cVfY6A/gOhp6StHaNAXxxHQJO0QB+CBHCBPhSFoUSSrToxDNE2KhQF
  hqJIDu+keRNFSiQlUqQscShZEi8zIvkzs8858xddexsoIAgCOXNmX9Zae5/ZR5sb
  u8KgEGoI6osMjh+yom9uyERo9xmD9eFfpKPjF9ebG99LxfwlvBna3vpRejbk+uXm
  7hdfyVla2Vo/l95Mxsvh76QH/i8f0v0P6IPLv8GaT77cEoTLZPPhlvTDMqMIP5E3
  vTy4CT16jc9+XQfoYJZsgXewDcDeTfqTDZnHhfnUzParP8rLKH4pBGbxPuDVQ26I
  Pl9/t/5G9gCI3jNxSZAQFm6uy6T491tS3aT7krPovAOGmZ8LO3aeSh/I2OWVN3ZX
  11Z+y2L3txecZlQeePovbml2+Sz7ky951Lu1iz4WS2xjP7OzKyPcr78VFZUXcaF1
  mbA8kzaOx7DrG6xL71CLf0ZsZd6y8lR2B6Hv+GXwz9yY7MjkPyxvtDf+xK+vQ3yC
  95fdjf/Pl1fX+H8A2E4WPJmmh3nb/DYs5xH4JeU//vmVnEN4+PwtNj876A/4pCtb
  +Jins5sbP3BzEeKxxmoIKveWJzJIMrYIPAyTWTOihDZlC70LKtq3n3Zi2DBDRWUk
  /FSqz8rK36HKb9YBmx05HfAYN/Lp6h3uTt5I9Fa/CP0utCoZX/vpLTNC5rjh76VG
  c8XhTvK1tICsyTymWl17J8cOZA+8I7NMVCg0K7wTfMOv1t5Ib4/koTK9Wn+39pKP
  P4dZN1bXZDQd/lrmwzIQDr2Q1R59IvzKyl9fhUJyTOJH7FNfbj+QIOIZ0MFvpOLL
  bDD0QLD0B9Ec/h+J1bVH8sr1B1G5ByJPvzKuAAzGLZ9nDD0SOobkcERYdgdfbMru
  j7vv7R0+G7caCn3aJMjKD4T8qF9//vfrxzJS5f+Z2H7Fm3Z0jHyQIyxzjd/I6Du0
  8hlzcI0Ph32GzzfWVuTblZ/WX/C5oR1O0nM+aQtOPseO9rX4GN55jd9yYsb2p0NV
  TWjH8uclPYsEF2V/2VGRET6nxlzZRd+79KeWP/1AsUvKT7XT0YW4cVw6alB+5Hs9
  1cxSqqNq46B2i8t81/XdPpUiJvGBJtf+fcSfHqpWTzfTNOn586aJlPWNpz52VDOp
  50V9UVdJC3+b0T6W5ecuo2zSRVuXB8qeBGfVoHPHN1oxlcKVo6DmBCcHujGl2I0/
  TZv5XBWa+vbEny9xi5nDqjE1B9pd+lMPV5q7fVWtm348OClS45i6WXUzoHiGn+41
  VXlsanmKx8iZqdzAZAs03aOmq8Y24qDPXfhF+SJNo75n+TObenPKp3W5pW49aix0
  MsHfXlfobE8dN1UyrXBv9Sqoeapp4Q9VndF9njI1371U+YK/aLDZbk41bql7aJZ1
  BA0B0V5Lt3pBpKSmU2XnabakYopiY9+rYn3TGZCTpNhAX0o67g+peGCWDdPJ6L0Z
  JTydtNVRVJfvaFjwp1VdyRhnYZwOxbLmdqYqdbP3kVJtivXY7NQAyyKzVIkjU5Q9
  JOdE564QNH+aUncT+OLPKzT5qL28xr0Dy4zOtBfX3QVlXF33aF5RzUvkLmha5izi
  exPVvlflkcpEAJugHgtKC5Xr4W9yxuS5MEYBAPl0cBAzI0/dVGiR9udZPXfwCHWX
  C6ykSp8jGqo9oXmJklmy4/raU7n38JEabX8KXHXVQQlRpUIuaN34M3iaNdF5YCGM
  CVwGpOl+ESABMvE5HkrdBBVsgIe6fVgC+xE63S7r87E/LeF6hDSIDoLOTDccPD1I
  ZMzyQB2M6N6iflpFYxS/Q1TNfhGYZFyVIjqZoalDqXN8Qpkqo8st8PrDM/z4szY1
  r+jIUnd507dVqoILgHw9SCNQ6npPWTmgCHwhq06pFuwESvEVDIDXuNg4I2rlAEIg
  B4HinM6vVbphIgd0eqUOcr7ncXYiPXInqnKlso5e5Jit13MzP/O9tPay/jwOLzhi
  dxFgFZQEy8BW9mV0pA4WuusykNwGZStIBGgLRCHm6rjA9jcWqhYDFGE5xSbwC4sA
  pWTXwBrkkaZVII1Gcd2OgFaM21yf7DHfm3Gp5QIeiC2swvUAVZDIso9Ar5uhalNd
  ngC9QCOWQpCZBW7DWFEzqgDtDMXWzDhDGMyALC/JbSob6XZ1bkQn0eCsrqYjKmQ4
  jINrIAF3BRakxiLnkHOXL3LSSxHVTlAiLo/Lmf4pxW9gIQIrmpbG+pRPmdtThFTZ
  VSgMiADN8b1TME73RwgI9cBWF3FmT8sWlR1KwIwrfeZBYcgtQ3MQFlwPNMIkfV81
  CwhLC+yD7pnRCaMUqW+CvzcsDsf7tLDBffV+qMoL7e1rLwEf9bCqG7dgDSBBqYY6
  6gFXqr4XVEssnvaVjg6D2gCLBGUH6EWcg6Njmk5N+tqMhrq+IPeMphnVbDAeejdq
  VDaLqGYb4qa/z5FhJjoM+NpA7QOfEf1xQfNzVYOMszoFFwesNgMI1yw4OkEeg0SR
  uvvQfMhLUC8AilC8oDQG3ZgpcMqO++6FTp4zNby8KfTUBArTZgudMTKr+1lATnR4
  AqeYdKkOV5NiyjhXUBKuPl7a3A6CRF6XJwzF+TWVsnRf4RKQ6uFK2My5WF4EVove
  DxBVTv3VIZQcjujyjRkxSlW7g4yYUY9yccp/pPwHsMAsy5B9czv0Z1dUyOr+lYhJ
  HIhiAo5umVOQZbdMw3PRzxLXl0Ga3DxwYuxL1YxSqcOrcRLH5ET95ZFKdY0FzSn7
  Xoq65/pDjfKnkFZlRXRqzL+TM7IvjNPF42gZCzoeNB8Vga7y/FC7SBajlL/98B71
  lzIxlb4M9k6hD3guKyH0Mx5jOSrAtRkzHfztx+FpUD8BMbluLhMwVZevUVMYqFDO
  hCtxzuIrNTyFqsNBddBSlZjvpoEfrr/tBHxk/U91zKIEJuKJgB8yrjsW6gVLmRtn
  yniuHgLPJVQ3LkCFKPSWQYXiYr+n0QzPNUnwfcQVOZ5h/kIrmi19uM/3XqT1MKnd
  PsScjiFN+eBDhpxj5rg9hvswFa0C7NHDhfA9TbkW2Q1Va3OZQAVES2Clua8Au+2E
  yiQoW2MW1IZBI06NE6mJQi6U9UZbDbs61gdK1eSamjfwkSGHejo5Fpy3AHLYgzpi
  lvDrHgWCyf4/Fs5sK5Fsi6LfamY6shzjpmZhWc+I9F1gCwgIiDR2ASgqfTzcX+Gc
  iPiLO1fkHSMfskiN5uy915rreCzp4SWTG/mIvEa2Mk5ibcEwZ7ZVTUqpLDtbvhq3
  SPPYZFv/5OaCXoovYELDhCuPQAaXg7DXFgXVN37yM9i8iFLyfV3NnYhk0PYu9y0y
  +Kra5FwycomCNYO+xyRSxDB1YZZVvh2/261q9mWLAmD3Ui2q7BYlsCKTG5wOJw3v
  02a8FmXxvsUVHYJu6M/KMam5VrXRMYt34zAFSabS3N8xp7ZVgY7Ulvd3u0WBewWn
  clJ7naXi6u3FDDDD7NSxNCRjO87BG9jWznPt1cI4id28bHOXpjRhQlFjqdz9JBgm
  BCevNcHY29bv3wXlr2ihHnlZfzX0V6+7TQcOkf7jiaMupISUiTfQwId22EgF9bK9
  xM6aYa8MY2geP75wefXn5hKq8duvQtZWl5W3byv/php4FRHOcshbYPcoHssSZCHY
  LJ0p/my0IQSN1bUTQlDq7SS3ED1OziTa7xkRIwSbHwWzNgZh0swpl/KAT7rX3myE
  N041cEcsjmYWQnZK4SArylovJb/xYVA8M4w8hFyo79bnYfWN9aQJ5TLNUjCMS9id
  BN/CsCCSmkHq67WCMRy13S0GDLgK8VHAGf2hyI0B1+JgZO5tkOj6ffmOvXmFxKAL
  eRArnL9jdqgm7BpmMnqvSh/zEo1Qu4arcctOcV57nhRdNHPy34dM0NuIahDS5pKl
  w/XMa5X2ptDop0Q+zcCei5pa95oI6FF6eIew6GqTGQ1G90bTlIdhgsk9f2zdZZqk
  KnPaJr9bd6QG2Wf7WrSNN1voRz7SEDanSpog50mOWf2UEb9nglE+2G6ZLyZFFXTv
  hZHxU64GeHMvIoNSyWyGevufb3CpyB+HyjwxPgw798JlQB3aNWw9ql5LOax0mL5d
  Y0A9/N1kO2H9QYufnQf5BAsFt1AR+9K113Ms20zO5aTZCzgNZ7S56KmYx0pZBJga
  Rff9QFt2m3dMx3+9whpEGl4rvG0ietzI9uL0GLWgdngBr2nfLlRotHo+969ug8y7
  nqeSFhNCenglSPMAEn9y0+CuZBZzf+CI+aGszb2MLJOGdaUnICsZJzux8ZY9ownL
  8pGSwxTgRLya+Lm/YToUYYo5pFKtiIItiEtNNdj6mZ6h3AovOdQjSStSbtvy6FUg
  Dcli0BSXape8nZAvz6Q0JNFkilKGBZdNLweqV+5RM3U9A0R5vDDekXKqx6ph+xE9
  CWZzXYcXpJSNeVhtSo1xh81UTkeqQs/hGXehFWa58lFKanXRQ0VF6NFVaWj4CHI+
  zTTF4KCcgXfHkGJApkRO3PKNigZfQ9PvIxFKMbgeAbbV/xNp6WF6Tz2DmWI6qH3+
  TovPUA+yOBoFYr7CqzqF1itUsvAekm7iaxpML9s491s9fBlpUgpbPmFPYU12JkXN
  ebaQQmbDay+auKUogsSEC5NNVjOmDHG2i635GhjnnenerTa0EE7BiJGqcH+0TqGM
  3rhqm3PiVY9pAl+VwemfNV2xCHJvtBzvRd0VFZkmFIOAn6R/SpL61FDlw0kRRq+i
  tkGUvGrw3hOzfQLkGdNsC5U/6nbaJtnJgMojoS+hj+dvvcpPc0OlM9oy3kFtBC18
  zcKLsuTSOk7gTYxTIyVp5FdtzXsumoX6YzDeCrGKUmxxIwmOm5ZX8qBciVSudLCY
  0UW2leDZ6IHdfEP3yr7ruFvaNp/0juitQgo5t4fCiIVyWdOqBstnqsD7mmWax4bb
  1XjRvCiPN9vBNPr8jCzQFO4mXN+dghbK6dMEJmicG7RUbkhQbcxZeUZbVJxNhxdt
  cg3/6XddcTVavS0oGbXipAZ7R1KoB2OIyBUFua1g1kJRBS29Mu9uy1FaJ2GNL4zb
  YUaQHeHW43XwfOPfbPkngomUgSdBeJ/rctKk5z/37diJJOXVPPyZ6DSfyH0eHu2s
  z1iJJJ2Jf9qjo2BUXln7J/Mn/Mi4NW1HEBkg/8ZcNp2t+dd9oS/ftSXWZRWOtp5A
  uvFKByqHZj0zLdiOIzkiJLLatE1m5j+dqqNOLyMQfYm2Uy4ZCtvtqWPz74iJcQbm
  4UbzmzqD5xUBBAw1mM00GpE7d4MnKL0c3lb84SlrpeUaJrFO+5kNZguTmjJlxqsB
  TtqkIoTOB6p7pcTL+vW19kbWcZKUbFTOXo2cQp2GYpAplByjBMffuRppJYqobTxa
  wC/a1B6UKAUSaLWxKmrNFEjHUtqjYHFkRuuaP4yzjIAfa4KEhqd5m31TFzk97e0s
  H8xkKurwWsTzKEEwyAluLW0RU2mLzEynajnsMtlmWq2bV0d172ylaSYFM8VMywpo
  2a9gdq+s1JuEbbBN20F8Ipxr3Uo3Fm/EIt5OEgdTNfJK0PVzPgmZ92IKVY/20D6V
  BD8aQjiCQKERCU6Rh5Gm1cZ+c+23qAWIMjMjDKIhkmR9Ss/aOljX7FmHtjS9jMQw
  NQ1yY22CpVLaonkZUPGwDid/8i6iFwjEGZNJuR0uqZ0HkgvpUhlkqx2D+zXX2a2r
  QK+tOtoHIy1SFApHoV+54JjOCeMJCWy5Ta2BLskgF7nJ0Eugtb/yUDl/JAryV1lW
  TKEj90iO0x5LpekXgMAGFd/N+xK9yTzwmiZd1ys3cyRZ/5l1zpFfgmmXNmOh9OT9
  jb9q8aEpnSrYemeB1+ClCAL4kTad1jWT9/SVPPxLL/hwzIKEcqXNTDiB4aqcR+4w
  kVDDXe4WVkRzdJePJASrqenMwlvHb8WlTg9DbQbWxnZ8rQ6pL6XVxRtNmVvU4FCs
  dhnxVPxBfjH93CV661/da39jkIh2qEZKf17LB7EaHX/WkT7AlrB3YiQuamy1G5ls
  RNbDjPSwrQiZlPHl4G7Oli8s4DfNhZlipHIN4puC7eMyHNwAz0ocN8nwcSq6nhf4
  Gq1DmnSveSGG7xa5sPZuUjmqr/2odWK3dE0aMCj45Ud53PaBuoshJ+eYMn2iPD6a
  yrVTX1zWv1oBLaKXd4VW7F4sCkifbehtbdx1X+TRJItmwc5Ttn9rK3f+y7l2iTun
  4UpURueo7aftoOBQbtHpfOW73bD2ad2PYLQy6bzvrYLxOSLM4JjTWxHRer1blBX6
  3LFK9tX3C3GbKuwWAOfcL4811G3kaKU19z5EI3fa7IXitJIk5aLH63w/0TGO/cN/
  D3Su70fs4Ed0RDJ2cHjw/eDon4P9X7+Pfh/F/j7Z/36igyr6ieePo+jA7GF0YPNY
  /7+D2F50cPbw8OjXt9h+dH728Pd+TL+Etafzq9GR0uPvByc/9n5EP2c/2js55JrR
  dY5/RJ9Ep+Zjv2P73Pd4/+d/l4fROdLjf490liM6WHqsXyc53Ptr75t+d/ln9IM0
  Hck9jo4W6rF1GuXvk4Pffw4+Hkdna4/3/vPz5HDv+1Estn/055c7daT3ILYXix18
  0+lDrvZX9OT7+gG4fpCh59z79e3g/ycS/8fD1fW2cVzRdwP5D1u9pAUsB3k1IgOq
  4qYp+mFERfJUGMPdEbn2cpfY2ZVEP8myRckuChdughRB0MIRFcmqPi0rtmxHftAf
  kN7IN/6UnnMuFciiV7Mzd+beuTszJM85xJ0Sah4I9Dvbzb0jbif2BsIVdlTQ3IYj
  BLcUFhbjqYnTE7anaBOwmc0TDchy+KsoBQFwg0C6uVQBnJC8gd9DEc3Mb9kTTz53
  Mcfv2IT0DMLDFGROpE7gTPqIiMVFu2PMbR+E9uGsleggFTyT398aErIU/jMkxN/A
  xzJOXadIMAiytasiSTlQXDcygYqJEoCvGfU70iIu05BiNslDwkzVtIBrP8cMQVRK
  RFb0Ku8JjCoEoBZCOXGy4Io5Rg8RQFU/yS/OGRkX9F15EFatIGbJ7BMNikgVwg0G
  oa4DnE2JsiVnRDDqULp7Z0fos5HS05oYtyLzSVH5HPMLZ8/eBKHziJZNc0dcE8bL
  yLiYsKYiPnuWpPeE+yT2D63E9nKc/XvM8DQrMIscM1O+PHu+mKKPs6OOv8esStz8
  2W7iCz/P7y47jizgtieEnFBW0oBIl5g7exanWewaaCREsOCrCWyidXHHdeCFwLCh
  oQwRcjoIRlsKLZzPKdqYa844ob5BdF16Ct8badZwBZ8IJA6fykAMkxO+MSnOX56/
  vXhysSqW/JvzA/y+Juv94h8qeXFxX1z5I1y/v1hC+bLqHF88wu8D8eq/U8khrl6J
  U//WmPbnT9X2vVj4u7Qmi+8uVlH6jmx9/P2Wr2Txo+2pWP1HqD2+f/41x3b+X/bL
  e7AnBr8Y9u/O38jekey/oHWN7d35s/Ot83/i/wO03TQv1PaF7qIlxv2DxvxSZez1
  nfyV17j7VCXo5WJFXtM2NQZY8yV+foblp9bjeGzk+j+9HCHa3h9bYJ0lWDz8RTHg
  NVr8rJj+Rz+MdU+9H6iO6RhQWeBUygGnsMxxmn7B6cV9WHs56n8z2lgd9U9GG2u6
  Xhr1X6vkm1H/VCV/H/W/HvUPRv1tvW7p7hNVwL/3o/6uWq2yIUtQp69WJ3rtqeGJ
  6uzzgq+nrMPKG7i+4/hMq+b3/MdWK6P+zqj/o66/HfXXdOtU109kZE89bo36x2Ob
  HNXG5Sv6+rdG8v2lnSV1Jzu8PlbNLZVsXdpE/UfyYu8yAnuqiTG8UMlrWdtTqx9V
  8i+16qlwRxV2VbIjs9+xIW9tqc63iu2SrC0NToYPh48GG3wdrg4OBpuDHwZ7g8PB
  yWAfP5uX5fg9lq7Dm+HjwaGUHHrUZ0B9ajD0UP9w8BPqPRw+GK7i702Urg1XhsvS
  eTiRksOmylmDig3bsLxMdQfY3R08hyX0O7yPslewtoXeD1Vzg6PC1QpqbKLmPkcr
  bYnHUpI4GfyEu4+H93G9O/ifeuXYVmF3nT0OdsaerOL6iFoUGE9vsK8xHamvQ3hH
  T6kqcUAtCdRclzbFCizaiLflCUaAVtSoOEarl/jdRcma1CqohrGp0bIF+zmkX5dt
  McJ12F6Dn5tovT4u77E3jYWerOFnmeNFzd5gj9HW1bZsrqDHzcEzefdYdVj7mHOj
  +BwOl6mOwSgxxpqXfY1jXfURZ8zdNqOLFj2U7cDGisawzTkZ7ODqOaLUQ83H6HUF
  9enFm8ELlPTgwxFnXON5KJUORthGt4z4bMnvTUYYltaVI1TteMY50ThWxnP3gIoe
  uMuc28Ydjmrrl6gfKTIP1NeJsmIf48O41CvjcCJrq7K/Ss+RN4eDVxyDsGHiBhEj
  SexpnVUtglyzOUNg61hHwFPdERpRMKWEyhpSdxBSbc6FVlrknxjGXpCTsovjjji9
  QtOTrs+925gAoazzXOzngs2pRkAkr7DJZNeQx7ngM4ku4nwWZ77OJb2Qe7La7/J0
  4/Ju0sW2arT8IEDfvIu7sEm0+ax5RDkaGE1ScSNKL3ZyKX/RQ4PyE61UohHGAwhj
  uDJ7IdzVl8S7EiFD8YEWkdGZ4e6vuUScRyl7+GTBC+2ss2VMUnVSx5S54V84zBDy
  STpb7HIjTyShlrs6NJNbFLdIW6hL6ViQZULBkQYOF12hlCXd6cj3lHBbSWIC7rUd
  ae7eYIlBIeCBIOdZAYNoEueHQ46vusbHUKxJJRMmP6lw9GmSpkCkbSAsk3i4TNxd
  HtZyHt0JUe7yEI/hkjJOmJNAX6TUdURNyIhlMi7J1TswhiboXdNJ3TXYtpt+keDZ
  MOZWNIjXjP1NehpaM5ZnVask5OqW4NIRzogm+0BofOXmhb7jGwT4LrpR088iFah0
  x/Ns2U18TGQTyaokj6SB80fdD4SY4glpRZ1NghebItRlzA9SBrxqBgM6SR+DGhXi
  u1K8EcdrYzkEI2UEw2dTtIsxY4JhBogBTsUOYWokaZMn804aMzzTprnS5psNRt4R
  9JvZTBtNxt4RuQyJy4w09sRHBosPwnXi0OiFGyNSlv7VoYoa3pgd4UvL1ppkg6zr
  STpLyJEgYI0Afz1j82mBIyUCiXKOUqQD5fwnH9XZjQ+uEPRKUYFMuiTC86U5EXyE
  bpLK1/TOXKEAGg71QuD7pCOaQV5b/5+a77ETrfsre9SIpK1JysFjFCPL8Yz4ZJry
  IaRk8P0NUqPJqYoM52agXuL4mA3TNVlnVdNX8l3UlsCh4K9bNsWx0/NrBBnyDER2
  4ak+9uQPcIIV68CswzuTqY/V0+9tEYimotwvRDM2D0ZtSmaZIS77s609XENSSTjw
  IcFzzedhhuy2pvSIGhRkJGQzNLy4JMKC++RTX1eBlJ6cOS/8fmk6OxSTqRb8mNyf
  dYP5h5Si07P2+GJ96TA9F1tpI61I+P3V5OSMLR7SwCGhep7zUNRCgY55L2NyzK9t
  0erUfA/otU5PTRjkPiLgXMIcypDP9V6Sc4IsIIsIj1nXiC1h8mNqCl4REaFsz9hi
  RXHa3FhBTLAOqTVNCqQQJmkLpzD8PvmM2Z9jFSYLKCG0tmzfSPHOpU78QstbSpEJ
  kszajMWuIlB/2vYA4xSZwBOehjxle602vkueCyI/Q3Zgs2hRcsR1P7MnnIwhJO1V
  W4KUUkhFT13qJh/GeeZuIDBR3CskPhegrHvtyhWSBdBthCRLkDt4An6LlQGTO8NV
  F5skQhxRbjJFLf95KS3qiUgMbKNxBL6/TSXKTLbCH21Jb9UiPKZ5xFpYCVxahhlE
  kHRmMgxd1igNnp2KZ5WpdvM6dXinJow9EY1JSkT6I2Z4mNtpTRbIXXg73aYMqbuZ
  iBv/N/P9T7Zrk5YSVYWQnVMT3Ewzv0jUNLOgEvOgQeTsvJfily8njX5ndLpATQY0
  p7wvfP8dHoa5YpGbG4HJ2Kv4plmLFbasxbRdt1u2yGFdSZOsi/W5LRVSZAk2eIyT
  st/CewdpW8EVjMAbt7qm2mvuQtVFeqLXaNbOISUZirXnWlK0u1/YsQIx097INZkL
  HCyjP6f0vmYhmLZTyc2EO3IUfJNP8RcFlvIqMjpHuOXi1JZmcgPqTrQg+SLCXa8v
  +Iiy39PaJccsjXDb2HqUXILTLtYCQQVlzLtEN3xyPRKUt7LDUIO7bqgamIm5tCIu
  GgOctQWeyqSIGVZgGAztQusLdfLwXxoiCprT9zJ4fVKCqaA+9dSEtjokNJWF5on5
  JxWB8yDl0rZnRBfRf9v4wKU3YtB1r4/VEgQpoi4Q4dkOz7C25AXXZcij6Zo8VmOZ
  hRk7fBmrLEgEDvs4RdOCqCEYhBQwPrjSoaY1dvRS1MiYeuOdSmc3AolLkdUMtG00
  TgqBkSIXffghHzwsIPQdm2kmDisWc6whts3bAcs7pCUeStKqtVyQrBZ+c00kHzGO
  4zEPCTuJPtqxz8ISA/VHxsEpJbpGnD61ivxNgfyxGGu3H5MsZ+zol+ozsyzHWs6j
  Q61pvG2UCFI6mGcERE/c4CKe8VgoY9wIcG8SR867YxqZT/5QUx6Z+1FHCnHYhdvh
  ry1scSFqF/d4uuE0ppJlIa3R28OMBZ7L3XVl1NUW5bd88pes28ZB47YtkkZkDRKn
  gmM4UuVpPGZRGp2R+HycFP/P09n1tm0lYfi6AvIfZlUglgtbTm/9oYVsx03SuGvE
  2eSiFwUlUhJjihR4SCtMm/++74eyAZLAsC1S58yZmXeoeUY13E7OQzvi/lhBxqph
  7UZYIbJgf4bUMPDxZRwUbflTUik25Y7AnpKttXJd6s5hmkIgUd532ip2h7Ib0Slj
  p++vddYqNiOwh/Da+TyyX173ewjM8+B0EiGS3orIepjYHQwDjt7tiUmddEX+mmeH
  EWfFaM9WXCQ8nFcAb/NY6L2cepXunEqzj6xZEWJCfJDQRQzXNXsuicuavDo+I0r6
  i+jadBeWEY9dsdsUNRsIijqahUSF8EwvRvfqPAuuGG51HILeuGU5Ia7cwchHo3sc
  o3BvVtJn+bEP9nqrUikZIRm4NRZMhTdk1wUUilaJwKRlCTGCJD2lL7al3wrCAuKa
  kJx+azTRrNuXyswaNmYMpLsTP5chL2+LcBsFGTLUY5uWRUQeWh5H9WQpuYQrJbX4
  xShuLO5g6ziTRPon3CCvHlnS1UscH7UWXvJYzC5Jvkcioczhxcj9esn3UnhBzpnM
  4lWWzox/dfuB8GKjSN6xhZlZbjiNfaG2vFevzGuDvcMIkYbSg4n8AedZMoTHouRY
  hYHjLYJQ0+AGEo6Or162GULCBcc1kLxN8lq9nth4b/EPsio279E+S7aGEAXEK8zt
  Sj4hLYP+fIYx8ps9nUxaEkGYVQqtcfXZzkOUMLjYUDh1s0p+mamxl41IWMyYw/+2
  pWLcprj9IVc7BJKc7S7PfEdsW75YZHQsiWBu3hk8IEUxXAbWlDE8MmpKqk/ko3yx
  d2xJRMqhThM1vDFMuE3DbSBxp16XYDbD4zvsaG5CHy6pFbeluIh1lCuLps4NYTkN
  CJc9sxdYuNvmVLrlnERO6X62ZU/VPzWe4c5w1Q4apCqk9mjz6vnB97DIfdndadhA
  zr4nngvGgSyJjzee4V1ynd0miwSSEwNmHIsRC00ZwaZmIa+1pUBthzN1Tk1XTgFy
  7AnCGeE0iGxL5+xCHkjLUH2VnaJ93cslvRNDPeQqU8fUD1+uBJ+kL8CpJNaL7E07
  lNhvGt4ujbQnRENgioQkH/erpSMyU/3ubuhOj2IWBDH+3M1my+1kpgSjYvzDhdy0
  eLkYuJnxh1PUBxc73PJKnCaPBxuXEMsfcTzwemK6VcMDIxM8ZBN8gkVl01MlU5Qm
  UxLYM8zolNSVnDhCBctEnhBVVqa+Jip2OB03EU5O3YglGTGeUfV05e7R0tmkg/Sx
  b59wEwKnFu1UCM2J8oLRaGEbFLqOYzjYp3kgP1x9IBejzdVNXg07zkEpJYvLHy1E
  I7U6nf/cVzpAemiWNEhBHgxSYCk8vFKHYtkf6iFJMFW8sVsXubyso/MQCVDcNz7G
  6uEcthJU2CqWp3B/X0W3U3vri5EpB9N/f91W8ay5NtJqJMCRI8BN4kwF/EyB/Pj0
  dHY8xYltJ+7YSxyugl8gBwp/JKu/FZ/YBgpDUZsobLxdXo3PHlxDytldzkqScr7O
  ieCDUBrBqTVR1u9IbtvoykwwrdUu1Y0+y0JpMOc21EcaKdKexGtXeFbQdszKeGCa
  9k1POTTMy9aMA70VmA2Vy70wK5V7/dLDobB0gqwqj3Df4KH8Q0StOulXONIjIzDS
  b5qkE3PrHP7uNlOcMxkDCeJAxJ1igFwzfz7ReyHjLRPZcVDm5OQ3bEJDHty1N6aV
  3PcJmUn6bHkFQbVVbqrqHaM11vOt+kRPxM6shjPq3L8yHBnNFBCLYDLvhVnkEYW5
  ubp18rbWiUNKzB17UwSH9LgVPM31MHYY/fQTiWO3EJUFnJC1mprhxjO2duPIKO/5
  Vsyh+zbZdmJ0xN8+QLteL32sMDZx1+Podv5x/mf8wjwReYV0EUVFh7tX4zqrcKQr
  DvGXeH9HcjPwZWrlTOVqwrThbafbfckhNBcxnolDywk3sJf/uMZZONHlSBz5HvZu
  1mtlP9HUwv0qrVgNS3o+nirXpTrE/H1NVU3mZ/1M89RBrdfcMHyPI0BgwuOAIr4a
  52zZbna+Qof3QAtwh2yC+OddkE6J05xVS4r34wt5CjcLZsgh6OefFf5VO0R4nbv6
  SjZv0beZa0h6pI2jUlXMifaHN6Ywk1T8Ww1yRKKvrEoebdz0srt1rkjJiuUZaU/D
  wBX1Y+JV3gt5ENeMsM2K0VDlxZqDYxgGYSlPLFI+dWpOPnJj5DiMsrna25syyn8o
  1xcjvT/iMPgO59iok1i2vfg15BqMZ6xj4nUF3EyE2VFkUxj0P4Rmcldw4BiyRKFc
  8SpGLwS97BpBBj5YsT+4LnznXOOBhQKieYSu+FS2NK0DkOHGZa0HZ6Puhb/YMVUg
  6yJjyfO91GqYY5LmNRKmenB8jw8u7by2Krf8SEtbOTYdluJUjAUUqZ5Tg2j+cD6o
  XlAkmT/oEBlxQkZyJE5ZYnIiWFCS51sMjLfidrdPeE3YJwxyQPLJUiC/hxfP7M84
  MAobNxo9IlDGkSjIR6ZupKdiIDBcsb+q2KKOnxSx9viC1cliH6b1hFjZcKZtsIFZ
  KIWLw91eqPaKeKQ+7+QG2GA1oqhWj66q3BVq2n5WEC7EQ0obVmARljrWl5DJLsVM
  YDgPUqIYPdNt/0SvaEzQiQRx2e3t8jiFCBuQhVqMx+fjTdfteGWcRFMnRsIOVYNZ
  NO3SwoEHna+uvK5+9OME1jtxoYo4525YWVvQySOpKayrUs9CU/EoFRkb2/UHIU5q
  8QNSN69YTskUbFT1oLxS7jueTZWG5nmjPGvlBSF/FT/DekjWbW4d8W5cOjbzJh07
  2OAWDmkaJ8IxS7DrYk3urYXmqlx1BYfgBIexTYXunGosQZ2vjJOHViNKCGeqUr/2
  Gv57eRX3uPhUIhvez5nxzgCQLMS1Jn8NS0CCPZ2A6l+xkGxpOdksqJ4Z5oOshOCH
  W5Trt6KSHCBHJCh0ik6deMBV0+erlqUWvNi9ihW/8mEX6z1QkAh61y4PM+tv9Av8
  iNGzz60I8UiexbDLOWYFLsNMhxBopMjfu+79RkCo0MSngYOD8NWgahO8qYAZ+tQQ
  UwyS6MezpDtYc9QPbPBaXdnHpNZhs1uzl35DMOazM2xAINL0ZK/l5hEkwoEDxuKS
  HjGb3GLGRqxEJp1jixQAAL+KyJU3y14LuSFbXzB9kmlWvStQYejF7I64tzQw2iud
  +oLNzP/rxx68XZUUGj7k8TPFUDFgWfRKLuLeetr9/KOCYqLuFoVqa/AFN+SjlV9p
  RIz223L58yv9oeG1rEvlSE3DoLFQtEXGAmPRCiI3jSvxhfkciNSO9OCklHMMmEd2
  uu6qV3H6WTOX1mYxIQZI4/OzUVCyongXB85L4hkrWKVTRFEZbcnzQQqH0WennBLD
  ekFW87C4sx5LGczGjqeImpNjFY2OLwQO9sFj1La34dNUhqO2JJfPyKNE/Cr+ujKL
  sx50djfKtpPpU3HdS2geGEYfrQpwfGXfu4LUinWTk0r3MVvTPuc6VOcMW3AsH0Ro
  gaXzI1iaQAmHZPTBy/cEAlX1vggeiRs/j3vXw6unrfUKSyuMVXoyEfD4ifcCF0cB
  J2r40YmMD2qq4U9XI0VI4mjJJ6HaoCo8pAkIFUxDjbcyNSxdk/HQiv/DB+A893DN
  tkEOzwzi51vE7fbOZaYvfHoN9alYPp1aHjM1qYm7CY5OMZqIPByc+1r/df5M4jj0
  +KYNMoLpQXG5utGEMlkdfMiwhQVKEHC6RdG+MhaC6QGyX+fj47Nf4vJff95IpMVV
  o+JIULviHGm0Wx7Ofilb0v/DSwqLCzhD/MJeDweXyfQzjq0kOoUTIekA8f65dIca
  qbxbhFFx31W1mxgkuCFsbdF83TvU+Y3lZLV9wxmLvIE0aV0cn4YC9H4/HWM/FxLE
  axHfm3OuG9Z6GiqcuVyU/vnn7+8X+1IpQLNKQ+3l4XPSJCZpwQonjZ3UlY9t1suR
  RjLAzkLlEsfpEanS3FVwy9yp1WB3YzUogxzH57JC8rFNPVTsgjPHeuzWohRbd6qR
  ABPDEMPcwSROTLOqyUTLqhs/ySbLrso0qwALomkA1XDqEs+pIYuXZ1U5G42mofIi
  Dh6tGO6Xhf7Xh5q4OF/xXGbSajvSKiuYHit7bV8pe25VjFv6NDIpIK+vr+gINzz0
  zZPpiSdXNqLJAZymOisyYEHeyWrG8t2LXBK/c85qPhxoUIT388VUS8+vNeI1id5/
  +T+ezqa3jeuMwusI8H+45sYyQlGBs7NIBbbSQEoc27DjBEVTCJfkUBqbnCHmDiXR
  Rv5Ls+wii6I7b/XH+j7njNtVFUvkzP14P897zjFBHbGN+RwJ4MMKX9cbTg1pxDy2
  UXncBJ5/qMEj30TWkdfq2zKxzuNSxYctZGn93ufraa0DvX/hTm9OugrnVTfXHe3q
  D3GSzYc4GegeRf43tL63iEDGdVIlrUu2n4kaZ6R0EV2g8UhRNC5J55hIvfGU6Hps
  0C6tO1na8HF1/5Mj/4iF26ZuzdeYBnrAwU+YkpDSKNXQ0WOE1A5VDFjT3MaimFVt
  eOjxa6MGYhnRGEzUxGejZH9WNyoGTN3GMLPNr6fT34/DJFICoiPtYL1AyNpFeCsn
  LI2VXB7O0qP4mXKoZGu7PlbCXDBPn3V5HpEcVjjefeFyEexivK26gEdmDBzHUcJv
  wL4c/4bLjKt2tmblGqjUKMZdyd+6eCtWfMzM0Iu0x4tXh4v7zBmmyavKqdNWrQRV
  v4g952tT6iUhK+JVlBVMtuXpKH2XrBzTx3Gi1QVle2yq+RaLSPbjydAQoYyx5NwQ
  VihKiA+fjXBE7kmB83ie55HPNO6PDWZG5QZ6sL1acM+Kwlcz0RVuX91xdakTknbH
  +TmHcbhtngyVy8WC6MIkoQk6flqnDtMeS0XvcIs1i493TTau2Y+79T6W8es0IsKl
  wUnZNaI1ik5xHpUJU+pLUjt99PWjcIeOiJM51HA2PI559griyuwKPe88EIGmqY8U
  wZaakPzmIZRtcRE4LpFixKVFEnqS1FeTgIkoOuP/7499f+dXinzCMbDhF9a8kNhI
  hH4OD55s79K327v3UjOZSBUpZTOoTiJRIWLxeT6aqSZ3wvnENYkwduLPTHKRaWbu
  1jG5Dsp0JgY0wRRFMgBIyGGmXMxZuhSBYGdu/oOEE27FskpEvfJ5wT82VHwTZQ+W
  HHfl/uGtw4rba1Vh6XXFLZ53p+h9upaT3CGeyUlFBLEjt6/qovpZ1halZ8tN3anc
  e1ctT8x+m342Ruk153qcsCRd3RJL0ULs5GDjvkOdOBtJ9gQiKDeDiX6z3kRGVtGv
  jLFUD1Is1obIH12sBKdZ3MldX8IuldU+PnYlEsGIX8L2tErSTJRWdPgaCmZx/TeE
  TTRWagWJy1pF7R9ozkbyqsrcockzqUdu42OM80gcBpwC2QQtV/rOZTHADCCz+kIm
  d0SiFlsVWXL45r25J8ux3ehZ18YD52S+RyQYeLFe6aAMROxDJU/3+BPYsbBxCrDW
  TvUQqwqP9oP+N/KdHkniISeGPNp9IZJKaMUgotG4GdxtbMF2c0kwdJWwbIRicSId
  pp0K/BgvVklh96VbBnVjOuBWi/EblKyPyku3VUUymRu1E8gD5B3DZhG0ma53T2Ql
  eVx5PPNyfiLshwlQHKpxB4UMmbj2n8QUdijdptHpDg790Wl6S0GZosWNXEB43/BW
  4T9j/wh9ITwOYxMv7a5cSm5HUDKJY3U4+v7Vz2etAYe65+AilOaknwzbMKcgTWTh
  iVrc761D6BOHaf1yMNSyIc0mEipqHkz1EA+r8uXT80heNDy4+H2Xz4FwRX7b9qYK
  E1eY8+InV6rFbM8MIZkMPNSmfRVY4ZoGLH1HQIfYuoU+Rb6NTkUyhAvsQCFVuBaZ
  IfgsXiBsg7Fws7nrfCRS4TFns0RZZerjeiC6UXpZatXqMg7koxPF6G2DYw/3OXEN
  kR4WmU2c31XbmSA2maswXls6Y61tpEn/JthBHTEhtM5crS9mAuah4204pHGjibJi
  R23u2TuOMOekjjdy/y8WFlJGzm6Ef6IwBHqiMM1tq8u5w4OIg5F6uHCwbgrwcU7q
  4fDnsRQvxf+XpABSdai+Q5vNR+cvvLi3rermhyYxdlQhUxPveuQL+Fq8l1pahRUd
  W+Us6dL812PhLAQ7rdvlmJq7+7euqwk4qOb6gPGEu5LAdf/MQJRefcP9B8cacsEP
  DrhNsSsZ6FXbNDtIS9dnBjiq2M9AkU5r2ymQoGoTixq/Po7/uOikV2aKvCPjmsur
  Ba0yxBpI0nwDEpWv+IPvXXWoKOoRsZRr+mrotK3p3K1dZoofZ3UvzAoAqxvshKGl
  cigDuWHxoTtwkjapSR3DDzr1st+8zAnRsQiGPkB5byjUmIg6XuzSB1RiYeiPsAJj
  o+3CwWph5rp4G2nIhfsUD3xyjy9xz+QmCrGxOZSTz1lRNNHtTZJekptEr41fCiPD
  1hlDvlxJ9ZDGOrdDbfi6AaUXgQoOmoqZS+LIGbFYUPxG5uPGtDBB67UU9lI2eWcy
  4/eEj8aDvciKK2gJ7/rzWMA4Bcqu53vaa8566IYtaxFHzwVj2iv1WWf7sSKuy75w
  x644HlRfm65a7coXXuk0e/eWv3nrNplpMYt6tHEctQITrEV8nzvtY+Qg6cPuxBep
  67ReO3g6tl25vDQv63nuwuQtj6W5ZBunmJLqKlgvABfQzEd0+GEfm5ffMQG3rNTQ
  fHDwrIf5N6uFvbOu1n6MTvSaZCt+Gp0OLJhSW0w5wnWq4XF6WFgx2MfmDYBtGYEE
  K2r6dGD8EXrQvPRYlxHvRXWUTO039KcrdnyRdSbO4VrGEgm0MPBKfvKhBUdHzWMl
  bCoLgkZ5vF882cbfDiDpFixO3zHjiMhWrKx8KQ+woXDN2rfduwLSZYp3IrCGl7Yu
  R0aJXbuyBx1mfAvZpzQYKxoIyLFR3+2Vy+C1yZfUxSi1wWUru4Tnu1UEV63pOacq
  voe97tj/9swtA2U5dWMO0AE8LvcZgXdktzcR7JsdP/2BiBYdtsQHSVEnr2mdNcB/
  sYPH/Q7ZR8hsaYS/jau3Ef6XNuBRmuZ03VluIZx1evnql2Q6/bH2JIfx65I58ynT
  9/awSiUfHNjZT659O/SEdMFq2jMjLufotJ1H/AR9MR3tdoR7WNVy7LFGfwOsFYmY
  2NzrRpk8tjmOfoZEvq9+RM2r6v5O7f1hIpyK1QaCIPgvdjoVo/TiSQk0vjMY1fMS
  g7tO81ralXKws1Esht6oV179RuMWYzNAJxNoJ+NRbqUDG6eTuklOW9esWhv4I2/g
  iaFHJlNPZkU2vqK63doXS6ApifY8Xjon4SkOazm3obBw4t531XzcA05SYQJ7xfH5
  5LYQT5m3+3gM7hWVHVXVqdkfSGgNH6ha+u+7b7759iyrZpiykA5ffWW0qm5mWNLp
  27M3F69/eWMAi9nWjwU6b++e7y+Wh6M7DYCW8a3bnPEsRYdyleKWmZY/OUAt6R0F
  XfUOr7PoyGOPtMXzPfTaNNTc6HBiuzw2Eb/luZqbdk2MEt9Aly/7ws7dvr9wG14V
  46uWhn08qK9RMo5s6ppFPoEWenpsGvQifFXuHTl4BKCrkjnAdb+Pr3NSzr41uvYc
  fzSjQsY6MxcdkcCvWZC/2T/+eXK42pmbvByfqhxO6S086oXXRfdh+tANoJIMCXle
  1e+FrAoneP+vpWH7msiudmFQP4SNvspVvY4UJYxj/OzCWybVyu8rph/i+3uLwGwY
  DV602/s/r6RGGSkHIGkJqrSLfocE1U4QYT6C469fyNZyYKi9/H8iPtP7vP83+IlF
  nYv/LXuGqvU4PiztjPsad5Gb+8/xd21m9nvJlDBY3U08xBzRRzybR+JbK0lFPvxe
  OZFi4ut2mDfXVNGyhU79CoyoRDcYJUfCD3VG4vwbw1V5zvb+M1LMrXxHWzza1HpI
  yBJOmjrpIKBH1qlu44FQSdpoxr31xHipXAySrBZzL7FUHdlndf+fthdMB8moZX3V
  SpJiqX2ID1NpoM7ZxbhYCaanrnYU8DsTAJSBW4Cf6kppPoJEDHKF8bv/q98hpNSg
  y8TUOQpImN737Up+JWvain4b/5aFkAsjrQn3EgsGGDqevr7/byPYVK952XhAD+Vb
  8qCg+rOAvWCx4Dcj94lX7yTcJf1cUImI+nT3f5LrdPXATFA2w74zpf9XxHlxbprs
  JRcpQzwL6kI12lYbJsexOPefG0mEtRIE2yATFsuaxQggvD9YC6llbyzbTC5Gt55m
  Oj8T5IPLijuZI44axpAQzVQHkE4XRRdpFHdoiFol4IuSTXXnsRtV5GM/KKJiJdmq
  Xp39JRCc/TCIWIZXXg+DdOXjkdAOT4exm4gTVszeVB5e6NHHYuwexvVe9s0jI2WY
  1lkSv/KHAu7qfWvNbVF/ovAIiozzzGQVUHTjyPKa5J7o06CjqhtmuSJ6LBqgI5eP
  07FGvplYf5jdkbHDnQ6zdEXDBAQazV7jSnlehK7UjB593RurcUcynz+CHROCAnyh
  2/SqesYX39i2penQSyYBB5tB+wEgWt9eyRQOQznLudSD4KO/VaYx7JsqbRTyyjCd
  9GLYZ1d3mJv0fJtUr/n+sLdgJDZxAwHOfBkssMNe79VYZ4JG6q4d1yLjDFYs9w3T
  LP9j6mp227jO6DoE+g4X0yK2gIpyAhRIJYpAkaRIgRQt0gJZBiMORY094hC8I1kU
  ukhspzDiIF31BdJF6rRq5cpu7NTxhn0Aa6e8Tb/zM04BGxJFcubOzL3f/X7OOd+U
  6VuiQtmZhhj7DjQjjA1iFcjTqRg7QZtIbhdky5XsIEX6k9mdeR6miEr0hqKhQ1k8
  sZ4pVqmEUowXaI0Sf2CekfxTPN2Yp3Dw4/thdtg5EPE+3CJ2aV2yxeUhnj+gpsjO
  wevHPCAWP+Zmz25EEiCO3KGKiPnI64prdn1uRfhWPEL1NphWu+KBILd5HXkN1VAQ
  Vag3AubzEaZ+RZTDqqyXE3SPVaqK842oMjBngIw0eyobaF4dtJmoCQB2MH6AXBGG
  lYsF9oEDkzrVG2Y8CqN0xDSZCANFspVuZETDuzAJ0Tn4FWHq+/GhKYmnM+nyA46N
  HPOkE1IszjurN/fq+ZYJZ/061HQjv0jOiMcd6wWbTUyAk7j3SBAR74amoxUuEstB
  Td4mE96aX3udADDABcYeJ/OZE3xjo/Gr7dQTTzu2YweCHwvod739UFeAJTLr5H+i
  k9asOxD3OeY504gEotKOgleLtIWIupMV28VD3h4LNT7JxqT7U9tVzk/mKg7Q+AB3
  Epljrf+2wYMWO6zCvI0V2ykhUyQhpNG0eMWijalCWR15+q4mzQoAEKxX1RrDzgGR
  twBXLqLUDqaD86NiZ3QiumSnfyJ409AopMl4FA7nqAMHhvZIVK8pGjoz1cbRguJt
  1C2bF8a1vxc3D56ZudTZBO2MZCaylIJM4DketrDnPW8cCYHYRacqjhVjeGMIhUR9
  rcsPxZtJyVTF9203pDE06bhZs2uH7BqiHvjNTvQNzPHN9M/DQyRXCq395qI7qTNB
  3Drm4Buj44GzpMOdud+JEUh78UFv/8WTqUzbzqjrwB7s1WH3UF9BV7DpTFirGugl
  QrkBVWD51/vMigWdmHe/laPWEDACwjn9N62umFuV+qNsjc3zzqSXDFIyZC27e92q
  Z74ZQV6pVxfWv1CoAIfCzscqiwg07FecDdeoeRPzLZwDIfCYrh8zBI4nw5bt/AeL
  GR4PHnrcNKPctt4XdSOpj1QxLpL6L6XrWnfo2YjzOSs74P69nCBdGTerLrV/4CHU
  tJM75tnB5UbfP3oNWNdAhQClEWEfTLnJxuodsp1+LKpSpkoBc1Jhf3U9Rw0qWSMz
  R4w5AIiK+zDjpPg5amrOa9Ka4tGxbzeJd0hcTaYjZfbGmn/ILwoWKpTDdAMJXOx7
  BkqnQ7U+7CaIMOPcxpFtc/3FfmykQNHUp5xhTiOmDYeNJltV6pszGHCxxcJh9+ND
  tHOfc15YRSAbNs90AmwS9kmwfZxRXGEvxn5/86gi49EU7CHK0DhO8gIWxx0d9wiS
  LxA2lREmqdEbW7t1pGdw/0QPpJL71DApLVrVBKskUR8m0025f5tFEnPVwCiSCGH+
  DN1zkCD2I4FSU4WLtDOxIM1KhuIUHUO5P81qO11jDfCawEDXeLV9VzjYWWLRwCkj
  dyNpX91f/TJiGOz5TALHE+pZPEZBZ9Nn50Q1EOB/zPnxIQjN5WFP7Fp+ZHUM2YHJ
  yvoBSFRwZe830xP4lW/bT27K20vOJ413rL6T7HDF553+jzKL9RRBK6bx2HIWEaYf
  Agozt1BEYh8v7ADiJ+YtJwW27ABLzgJ2Z9kdzUxM2i0KzsN4cRvWmbgMGtqKHcFi
  /ajqWSTb0QrWNYv2R7v4OrpF14sdsOXfiWsrHKUjdkCfauHZioS5hRkkZAtokeGB
  q+sj7R4eF1K31nnIpKK3dTascfCaNUUsxBGbR6yOsLNIKcG+ga5KH5i1B3ZsZIpS
  LBSugwUCvd1C8J13DZKxn5jVPbNI06XZ4ZVznKvDBdDfEC1BFg8BG/gp3l9G7OaH
  DUbA3mwRkSH6niHHkpRf2u3FU2Q+ivHQAGTZPaiA1GLCHTUzbFFDl6E8/soU9mTy
  bH5X/Ed0OcI8zL+xnS8MktdyY1/LJfKiVjzJpf0gciRjgO/Yb2KAGhcwTCK7r4ho
  aPYNU0rhkh3UEbVYoyORMbRXI9JHHLditZR8f9lDVMOQNJUVA0uR15+MPc4GCifz
  yKabb731s59vvlGAOYFY0sH7MvVaHezcuH3DFYQOMRLmsgVB8qY5SEwBxH001icx
  jPthv49pg6Q42C6stxS2b0PvF5WpynkGRmPEo4PBLwhQQA8k2DEmj0YQAZi01Su8
  ZjFGdgn7kgVmANzuYGhuxuRGEo2g7LgOg9iHECchlzPsOOyo2YpZZMnBayLvYF5I
  bcfZ+J2uFTJjtEUc9bi91SAfUJr8hnwcWd03TDW1AkL+wPPW2hdVun47DN1BGiZd
  H/wQ2DH6Uz+QrZeWWEmeT8kEi8KCFcn6KkjS0D/csSTBjslZPRpCdq1sfur51yPo
  h6JOFBFdkHIzdnoPKIFJWHeg3qBN0R3EfIwLqRjQ5OnrcL3jdBHTEZbH5rVxfq42
  jl/CKAaT9miaxGGVVWvqS4E8Rvg5zcjlcHMJRyMXUT6CZMwi/8HSIdniEf20TGZ2
  JrbdnsO/V51ztKf8ZGM6VLLBTWbNm7+cR8qlpl5nwUosoAWGjRcoC36V4vtmtWEx
  iq48IbUCNBC873EPrDmRYeWP1l9n9Wb+fZscqGp+/WgQbhP6q67CasYtrDOj6vCj
  92OSr4DQbJdNdQ3opqYCU8OPa7eXx3G8fbg42QHoezOZl23Rn+zrqY5L+euxbxwu
  2AVZ+QGUeUiqEn28N5M3eB7Ob6GjRyZUvt3nd5BA2a9PBl4o3t7SyAbfMhmZ9THA
  5iUHk5IdK7s3iRTzsNss/0DawGowPReRlTDMI+n+zHq2u2Ad8R3LKKW48+ETjOUH
  oY6r/ntYNPSPRC5VXgJD1bTMtltDde38FXuTxv1fISjo349zF9ZL2mCVpM7Jqh6Z
  9ymek6UHMG8iRpkj6A1jHzNS2KBdWDr4iDdLVHxRBYI+SraGSjGelYc6oWjLCdUS
  rDfPp4SiOtGvsELMKy2231icpKE/YLZKNtb4zaY8XcGyzpFnixvE+0v+C81AQW8n
  9nMBtUZbDjf9/vabW070WTssOW5NqmwXyYI3LkeHpTCMzCIyg+tqBbdxXc3gNg7C
  uenyrbq237hsD9dfzv97t1s/X95afzWFAhyU3ZgiXT+cEyUWbqWT+O7djZ7pzITn
  OTLLmOD0w+rWz7F1tr9fF+Ws3asRIDmNn53gRhc9OFYl7BD2T6RsjtYP4/j0t/H9
  FRVSdRvaxfpbhOWx1nML3VD5F9h3aSeQN22QdmCPxDnyUUhGd8h6M75AZgNatM6X
  YSBdHaNzQSHT31pfMM6IyDScKWbkc3m4fgjH95jZkjAMUB+qKFe6YKBGwmq5NAmz
  XYCwBmYIzhvXw6IF0qBe4C42ZH4PWrrri2UVockpqijtadkXRgTAZRfReLBS+MH4
  yiZ2HICfVDKROY7n5LwvO2vic35dumiQff9KasfWx22JFzFGahrHdeEFdVFVh0Ac
  D82ZvlgRfiGRJ8B1tEizl7iJ87pEXhLnc4kjbPWEirpljLphB+ya7+8jy4K/MwMP
  v6aPN5gqyiIY8LmjepP3Sqa3pr0il+Kwcul8TKssDV4jstT8g4N3c31xjIKB8m9d
  260fTuBgxPs3IZTMnvIxfpWjSoSuRwifUADBAMROBXkh7t76DEWCY94f6dj5e5hH
  rOwg79piPlOcA92Rp6Sewibgl5if64sIYFpkenjfSC9CU3isMsRXUucNi8T7xOcR
  96ld6P6zjlDj/PR3W5Apj+M46AaJ4wGsUu/VS+cFS/o1XFcEyJalpml8an2GRGS1
  vgCN0voYWHesqECTen3WovQ9geZNrFzY3fB74C9HgID7s4dMDJSdADsneT/2w1LP
  H3EX7iObmS9npejZLZ0zzC7mO4E+1PNwJecsgoNj6gxTBuwUMtKQjOqY7yb7T4Um
  oFPWZ1AHplL2lMt3dhSfP8bXYlyxTKF43Kv75rim2BtOWZ9ZPypRHwHc2QUo5dum
  3AnYGdX1xSzKZKzLWLyAS+s6ADmS/rMov1PXumIe6P6UVt89f/nk8hMo2eLn5Z3L
  z1/pAMdPvLaa8POXf9bnXin3Qo8XarrUGb781J97xmNCW1jHearzQPmWn/fx4r/e
  P6fS8KM4DkbzND7B1/gsFXtfUI/3WYzknlWIv5OmMVWBX8R49PMZznT5McYcr3B+
  6R8/1/uXX3Ds933+p1AHtmryY2sAS7X33Dq/5xz7I56TusPxDSgC/wmKvnjFq74D
  xeU4NkaO6/sPj4HvP+H34ro8vhiPPkMNZYyf48D48BcqIOM8Dy7/yPv0AE+Do4B+
  8OMYt5STn/Boj3mduk//it/v+3495/N5Gtd2bsXmu1RBPo9vUa04fnvBKz73c3nw
  8hvqM39BveILPCeqHl/4/j3zqO9QXfq7+Iy+/8LXe+6fmD0f844+jWNxXvBvn2Pe
  cB5JKZqazTHep9SBvSc92Kuvoc76/afUhZVi7EP+/ZyKqPeofvv32O0/k7rt1ZdS
  14UHAC1XqsU++f4Ta77+oEKLb34W796PvzyGBmu8Ly1dac5+xW/fh87s1V/i3b/F
  Ef9BxV39P6N6LI5yjxq996HVevXvq2+vvokx87hWAL7Ld3B+HPWfVAC+F5/6q8d/
  9+rx/4g6sx4pkisKNzvUDLPva7qeGgm6x36EoqSmYWYYy3gksHnwU1ZnVFWarEUZ
  WV1dY/kBy1iy/8ZIbjOyB3kRlp/9J+xfY99zzr0NiKGZ7sotIiNu3HvOF6TLghX8
  BIxdJ9Eeg6uL67Lv/RGMXlyp/f1PkmXBiyVNV9ePq7YrFsX3r3blT/x+H4Ng+9/f
  kM37hMf7m1N5n4KQa38/c2LtH/hEQcMV4/gpSLL4LGm7+OSf8TzsZ78lo/j3ThA+
  5rn/Yk/oX3wOz+1f//Bz/N0+81s9T3B8+elnZO8ei3trZ3saHF7SeZ+Lmcw2fazz
  O6v3O/v+4/8853Hx9L7ns0W7/Mmv71jfJ50YHGNyesnfxTN/oqjQWutbf77PyGw+
  9jb9He6H/Obv2DJPyB/+Hl+pXbb81yn/fdp/n/XfW6dOnzl77vyFC+fPnT1z+tTW
  xUu9l16+/Mqrr75y+eWXepcuvvb6G2++9fY77777zttvvfnG66+99/4HH3708Sef
  fvrJxx99+MH77/3PfsU58PUp+/u0/znlf87we/FP/+qi/97iRZ2xSzm3dX7rQuS1
  lGWFAyUq5No+Qbni2QwOoI1NPnWDLAvhSgjcbz+4vXtEBhMlZbZQgE0Tfk/sdJC6
  6Qt3dmqV8yJYasRp3FZyvqxH8hoi2bYfC2ZbZzDnPCSaA0F8v3C3js3XK5VlWLSE
  RG/haS2lLepmo/WcmL0NckLJIRTA5sMhCCaY15iL+CKLKwwabNeuWOiH6IUV/H5U
  opZw6sMmBBG5LsNryE5WsxUg3EvMFJ7IJ9IRBB0g/CKnzUqaVi6Xe1Rn4/MoaRC8
  datesG60+XUIL6P8lqlpwwJ6zxeWOZQUucJCFrnsXJIS070ojjppwCIY6qwsmKBu
  AZJ+W9g2zMg6DWuwK9Yn0IXKPdppWNS0q7UWs8tA+Rf/B4eSdOqbVMUpKiLr5vCN
  2b1QU9dNbc08t65zz4tpxc7YrixvX7mB+J23M6snaq9yjqDmIBB9tmQUMYVQ10w3
  DdB8WH4eJinZsPxHMgWFR5QOUBjcKJ9Yn2TKwZ203oPctGrUdZ6RVYOfSdxl3cK1
  vSYdMXVfLpV5q0KIkqnbRmrK6WjWkcZj5CpR3FKafUgHK74vcbF9sRuJRth7WHxw
  te3N/ihamZW7NTB/9M3Yz0DK+e/jss5fWsferBcL1O9KrbhdiJPtBSHgp0c3A05/
  22JZrL1hkaOKodq35QfNNGDG4cD5lut8kPgbr3DAYc9T7LG0DN4RRAaJWLGCWSHY
  3rnMG2tXe9cCJ+QclrCrqlLRC8lDpssGjev1hbIR/JbYQNcBuN2iv+ui/FTdiddq
  CQfU3Xm3je1UmFRezd1PaufiJfdUprTLuGedhdrBxMIr8NUi6aWqWy8KEBuyTDGd
  tIJ0rjvquD+kh3xewpajOmd1i4pluqJbleg7FgRhk8eaAUlickjhLYy7yXewmBrZ
  CQYulhxGodw+m1dU6IYf9YYM4XacL5L3BCyFWP61ZZIdnHX3GY1XOYRRO/WcWgLi
  z6QB2o/x2cVLqxwqG+JcAP9LoXfKNEagOecSlMMwOxFok71G2F1a5UeQN7Ncs3Ek
  XLOBu5NtGgXiG1IKuERJ5TXhsm3csHGd3BR8gL28ZsXKjiwOJ5AMeNuQoiXrCbcK
  QeFyugCKMs3s4S1TiIMyVU2QUVyJfDOQfDyyCnLkSc0WByjF0fTP7nfUabjIK68K
  enYdZXyVIfPJHODngn2wrtij7Jrh7hgFp9wGbhvilMX0KnUV8qoc9fNeXmVV3L2C
  UXyWl3WLmauJWnhvVgPbYSs1VcntiTldA/lkuGatAwlhZhfvCa9fktaWgB13DDPG
  XomcKgz6HLEdqkV6rRqMAgjcoODUKOmDHhOmlRWm/q88WVhQaU+kg6dfq7KZYKad
  zkLglKFJIdxZ2vB5Ym1k1Uqshdcgqi8qo0sP45Y0CvtUedoOqYikaQoYBM+/wqzk
  wbQItUh1Leqin6dRC6phEQXcIiqJ1yl5wGBnLyBr3Zh84aBDJNMgU3Gzr555AJJr
  qQlozwVzheIh0A2O3Gr8JR7Gj/GfqBqHyqaYUaBgUwnlO4SzjsfqbJGZvOQpdnI8
  OB3vWJ91WBoNtiVMigt77OvpInSKnhjK8qnUWKSrVMlapFSQ6ACHGNMq0X5rSAI8
  IbvjgJZtR9lBCYLKhV0h3jMiF080T/gJpp+iClcBCsyA41oMkWmONoIQvvG+4RI3
  aBSGgk5F0bxwtmyq7nk6uIjZajCGuAGR1V1XABbFYj5qVq3FdStWl3mD9VIskEwW
  WfETe3500ZSjhcIMp/u6vxCy9YRHgPBCSGkbteaAH1DlVx2SRpmXRy78P/CBsbKg
  9Gbf4pm+K+y4RYWgtkWII32Xi0UbarHs5b5U3Yd6D3dYVhULUtvRRwpP0SdaW8hC
  8qAU7Gi7Dwzv92N4B7vIHgs3zepIdwuqW+XSrjZ/hbQ6bg/cAxpVNHyBreXlVPfE
  2dVC8IzEkt3KqAY8hFKQCWK1NYnU4HAc3XCQ4zQBfg8CE+WiqzaqbykKfJVNE+Vc
  3AYfmlC7q6ED5S4EuB45ke2NuO2yno2PvdxYAcAjC8wEsLQQnZI0ap6kzcoydsGd
  7yrenRhOB2Oq8YDKwNsNIBTw45lgKQLyaxjv4Q+yKagI1QxVOQCecMZCQI6Ir5Sw
  VI+wWM2dAWjv6SOCNvqF4+ui2JWEZyFTepZIngrd0maEkROljrJw9jlbB70SI8C8
  Gw527y3atU2yCJmpLmIz2RDnulqsTtrtUFIgnocye+MMYMCZOkXJlG5R3eDTzY7v
  loABX6ub1jrWIRsOCgq1si0Z6GWUlxK4egE74WAeSaZTamcFe3k5a9nP7L2YAqgU
  wvZ8LgXcq1vMu9bJ6HODL1NUisMEwzkecHJYQ92R9eKVLcxggsYCe9FwiKuwE0e7
  WJMOxdEdtiwhJqy/hf42zxYNkCkpU4NvYxhjUUbiwGvSYUnx+dSiZdrlyFtIPqAR
  jb7EKEzaKPQINBDRtSUJrxxkIICwqI9W5tiC48wjvJRe0w52J+ZlAtTQ8bm9X1YX
  nXER8bXE5WVDSDraH2PmASI0W6gCOtwipJE+QmgryGV+8It9MiD7Q1dh3HdxWeGU
  BRsqE+Zr+9ROcZcMJdTa9NBkeOhQgpWUcEcaKImiKErMDsVuNtdigaqYjcF/52Ac
  a/9rktmMPchGrRAPYZK6fbpJuepHew12VVgc0gI1c7NzLSSnIuos0gBDR2iBGapx
  vJ93pByivCdZUp3WD2sP3iz+052Kx2BzBO6WtI+f26D3zcrG0m0BHJoNYzIsp1W+
  w7pOekzQew5tWCtA1DtUt3lYP6qX6K2KLiguEVJto6hjDaOIXT5m+qhDu4AM8aFY
  zWXHAhpnGdKRWlg6G+F93O3OuI5o3kqeK8RjyXmBwyiJ3mU8hlt4IOwpza4cpNyg
  NMs0c2HC+Byjjk22BFNwNmeMjXEKKXteGJ6KELnotWjTBxH2yN6AmiIGYfSeuY37
  EyiGvKBug8MSHjBoIklzJxK4kfNTZHCA/mNexxVXgPepK2LcKN1i6VQV4N1VBC/E
  9QROw36ag35ZOAO8wTiWiUtiamYx/ql32sLRR/Yuc31Xax+nGSYOC3MbvueUr2SG
  Jb4bCnkYZNpz4wDrS78KLaas1KT0TXQu39IJhVsWJG09OJtIUEPWHJBdiL/Bnkza
  f4YfjyI5ZvKunC2xwQbHXjTKFy2xvJOSqyQYm7X7BoAkVVHCNYgWW8yJwEXD4VMP
  sUZzBzhjUemRH0wZn7exUxQUSDAmQyrvEtosDpt9aj9iv7ivyqHVCe9iIrJ/EMpG
  V7Zd7vky7gAKOU0lIUoYljTq29dFEVs8uM4UOpAxY6RrIWF35CJQUhtRUMjeWdij
  Y2iKSVPMYYyMcpuDAtDS6ph/FisFXwHZOD+hA61L5ADgFYVDUZMkBnUc3FnpV0MA
  0h/6uSgdV1ovCfporzA3tOCYALWBmIxYVVqUizowYtj9KRBgNagdcg5YT6XCD4y2
  XONlRtFe994LmYJyaARIeJqOAJnSAgzmmZiFIGLiEAtwcNPtgKAwPsJuBninYQ6J
  DQcsygXeDCL3MqQzA4sjGjAedIUzcPSQwLVBptdzdLGz9LqFbDlIXrlvIg/DQRSR
  sEu7tVXUasm2QOkPzcQdbRF3ly7ca2j59WEHJKy177HFcNcpVfvWsqNRwiPwcSNc
  InmNrIjFhfPIVISV9jpZeiPkN4RGt084wL74IQIqJAWHHmk1GzFs0Scx8mPaDgF3
  EY42uox5qZF3KcSqAssm2biCp5ojNWRjVrs3kUBaaR8R5JdTi9TCS2J9dgKVUZgw
  ro4tdmOKiQEDoo/QKQ0AoeIwiHeHe9gJWICIkQHDowQzgAXRyCgibsGAH9meq+Ic
  2Q3e5xZfmgeRNLeYhE4uRMAxiYd42iIZtcCwc4ITbNB6IUKAm2NNVD2IeBVQPQ6V
  0Sg3RbOApBhTP4IcR6aCtpIp9T9xGtgpPEsUOerNiSj3gEMmIIaeIrIHVc3pb0fD
  kZ5VhNUvmvtH9NjjOGXxYhcy5dl8dbxohZGCOgZwQ+vgRZQbQDOhRKunuK6rhoo3
  CqKvqZLtWWxx4NEFyKfwlUcSrAPkDtssKBjAxBZzdoikBgMnNwzlz7ZrCJ3OPITW
  w5htPiPggsO7e/SuMvENBzMnca5qLCAnLle7d2HUckPlVeajhWmUdLqIHOx1x143
  m31OnzZT4IDC78LdjmeE7sepFt9i+C2JoAjsImOAw5NPmhvp9ljRY8+S/zN1bbtt
  XFf0OQT8DwPmIUphy5e+RbQBV+4FhZ0ItYM+FkNyGE075BAcjm0KLSC59bVyqriy
  lTpKbBWUrDoSrTiJKymJ9aDkP/xAUkzR/kPPWnvvIwOGQfEy58yZc9mXtdcSN0TJ
  pqejC26p5HWSBYPqyq3yMYuL1SFckKXtsGllmGGgT+wckgO4otBH8/RUSQoRbHFd
  BKvyH3EcsRhdDCrXGLanYkBzw9kksPIwGopnjX1FUabkD5XUYp6BFQeF5EaQUiMw
  AblJGbIanroRCrlUTtO4zcUKbFxg4HtbF4Gw0bgZIvB4xTXS3GUsHPsuJwB6eMQC
  7KeVKHO8GoldHRnqPJBgAnYJdx1q4ZSOa8WJDqrMcBCTRKzBQx/c0pffUyjiV5cu
  nCctBHzXzjvK3T05jeCg7pA8TMhEhgyeuQPBMUOv6kHvXF+r30PJDUtrQjubiI1D
  cXXNkhQJyraiH1Zyd4y188vxD19+P+/+hGD293f1xaudv7zaXnq1/c/h0upweWP0
  9DMB7A02lwSx51787/7yf77e/O+Dr/rbu/1vZvs7t0a9lYPeErTqNxZHvS38cP3D
  0ecPBndnh8t3B3dWBv9Y7+/eG80tHnz30fDW3mB5q7/7pL/3RX9n4cc/rw9u7h7c
  vnXQfTn88N5oZX64tuzeHC18N3z87Wjvk/727HBzdbj4rP/Nx4Pepz8+nR89mzt4
  PDd4sjj46OP+tw+H97eGd3uD3b8PX9wafbUzmr0+uPPZ4PrGoNcd9dZHvd3B/O7w
  318Mlr8cbF8b3tscLr50/RnML/V3N9w7g+6TwebaweKj0Ys7w09X3f8H7nYWbuDi
  eyvDuWeuzwYnzNzc2990PkMK0w0TOSyHgG0jQ5ITBBe1FANW9SBBZ18lAnOCrYW8
  rZvh6tS4JZ0T4VXe30VOl9XnghaiUjtZAsS7QTBW0IMKP42rqRlvrcvmZHkkIYBX
  APWRJoVgqAaMWdamy7l8CGf0uMgs1gBXKpXRhN5VcsLvpNZ5fzOM6/srsC8MJRu2
  DF7VYs4FSEuU27NRZ8bt/6uGKn1IZCkmS0BkUkwrTRAnh5m6kkCrXuvP3aarAKpM
  I2Zx6LZ/pCrCTGu200xBWaZa60bedWZ/pdKWuhICI3UMY0WSuXcwyhxVLBx21e5C
  Ud6EqxHGFyZa90LmBfcGuBDIWgkvPQSLUwN6ho0Z1/1oxgLIzstPOFtCg/FlapZh
  CrSArGwAibfCTAYgucSIoc+cJM1Qf2VowcxgkjbyaWai2tcoib2nktsQHb9GYWwR
  Bd/m/6v89Gt+tMWv3TQlchEpn3vV/UQ/wvc3+P8aFbt37DqiSr7DL//NrjPLbkij
  a+zGuv28W43BVJFWMpUAR5e2Xq1eo375Or/T4+suX3/On29RHH2bb3atS89Ntlxa
  v2FNbJlq+Av7yPXkAd95zuakS/etLREp36Ce+qx2FS8e8i7m2aKM2HNTKH9AgfPb
  plO+xn9d0VnnFWQQXpje+XX+domNblorSyb3LiO59Zpeuzy42yYSzwen4+wGak5l
  zvHRIx1t3OBfKcR+3wbhurW1ZMLtXY6GV1t/ZAN1jV+W/ixYoz0bMen5S3vo7s87
  plL/0NpasCGSC4ok/B7flNF+zrGS+bBhD1puR+bqSxvVWQ7CBru3zt7Kz29ax27g
  fdWVl/ksc1Wezm32dtNk7LfsLpZ1qug49/S+8OlT/r9sN7hqbc2y/zumai+dfGx/
  ypfneMuygrp808+WrnVvjX2W10+1w+jzPG/hhfVnzabWM2tUuvqMD5cNaZ9nlb8D
  Al+Qj2Gxi2XXjxQmDccS/D68HErJogewUJlN2CxKTcPmMLFGyTXYQKLdUArtU2GU
  xBamujSnTpzElS/KlQ0ElIEtolpp5fUyrEm3ITvrGkifGexOiTiquMokJF2gkBkq
  30ZMJLSGft6VkFbMI6AhtrJGs92rhv9U4qPha3deqludRTHwSWxTTJRfhAIqUZUJ
  ZybmIJoP3nr/7LGWr5b3KKQMQQeJZLMvdJR/G5KDuJ0eBt/GA28kxqwgwC8QVCi3
  kNGQ/C55NMXbjj3z7unim4a5J8+bGnJqKuB+oyuZyCIrZwjGConbWLA1ok4VNy/5
  JzgFMetQEWDNkBHrPLFnOU7H+L3aWBGuckIsiaavOc6ahM1EgQ9+4W98VvF3HhPG
  9L9zmdJqI9WS2BIj2LwKiuPEJSUpVJPeLGg3XSuni6XXApx0Lig9GWfjNL01Jeau
  Mpk21KejewX/t42HdowWvk+MQ9Mil3JOS5nIHblzxnUVjBlSdT1m5/BR8maGunpa
  piAO4Ag+/plfAaowiRROgw8gzqIxCrWAvtpnoIrGslIMFMXgzm9v0h/3aJWCaY+z
  Z87OA7a9eXVCXc2mcxlR4THdscRuxfLuQmcHMA1r5DUhWG166AeIwoTp1cKJEeME
  ZRgbnelOM6VIbDYu2eixtyfI0sUQNlEjqh4Mjk7c7y84QhxTw6AVSWjZVBYY5cdA
  vUEutXkW3cWYIlvSllyokClW47rmE908mBQgldUwIt0DJ44mUqWSN+WxpnDYaizn
  Qo0kpe1bqaLMtB48FoYEFDmAW8R2qQ8UmBNXir6SiSpylLXyOfbj1ciefsXPtWYO
  ZhRcJUrI/SBVxPo8qGYrgIGm+fHcSDgnWZXKHnhXsTp90lYeGMUFVaLwg4qwdXIa
  ZIjblpkL/qXfJwuFc/RSg7bPE8LjiMX/QzqG9UltjeW0Ubdb1zXISATvo+QzAhJW
  QszoXQj4UBGtHHVSeebGlRRVtSrQ/aVIImEs0bUgjABRo+jRAUcKxosyEShGhzWd
  lC1G1Sm5XUGk78FPFtcC1xIz+OypYtGOFAIP+TA8RhBIBI33VlbeXbLSSbiIpJ8c
  P+MsiBpTrJ7PUdaEjCkT9cBKOD8G9aB1Y48iLoQZ0DBhYAeVnFeDDMW4wZsMhzCe
  oawNYL9sBAorUlTiDGYiAI8ITKD6mMKWmUXZwOiArBtujzFPAkqnT9nccLuF4lTH
  fFCbrKKYRzjBKB8PHqKicqdXNc3c6hDp1hSMkO3UtcP1e9VzcwgcopYnhqNqZahH
  A9NYXie8hLlV9E/iE43UHYrukG1PKP8HArvC+BWzME5wQ6oCjumRNyw6YYC+SseH
  5kAijmQKHpLbn6mm3ML6FcNE5zjZOZKKBKXJzch1nrjZqYlsPEvS3Z/w2GIDPLk9
  J0lyyR7WwHjM8C5nH7f+KdnN3I9P+t82M8SjcXISmcUcipSL4o7czMYbyDyn1AJw
  GxhoXCOuGQ84zizPkHTOeBBhSrZkMBsj+Nbi6MZ1YmYh7l0LRIjgaCjiEa6N895S
  eL9hOEzEQSXZWPDQ51iCj+7TydQSowQDUOphSoRPibkjLRCynIZGCC5aFP6osDyw
  HlZgOe4qR3wjsHsEwNkWKlbXP8wvoFPcPiTZewWSyZWFfxd8PD/x2XCDLldAOanu
  rgR9YdPY6i4d93bJW7Ezpk5MBHFQMjhuhcgmAb948G8m0WCsN2M7SjrtVHh6icpG
  DVgb4eZjSv77p4LtWFp/DltFKqpnyCEUyX4AEDtv7YyuGeI5Ug1JXojCBqtuj9pa
  iASDwBp0BJxFOEMwGQglXvJWJKCMgnMth9kfInK5EfBIWm+NhTIuGWgMtuRTmQI5
  wFyjRhztKwQapiNhONKUdybRW2yuyrrn9ghJbGUkBaUEMNhhfS7Jn/HZr2Xn54mt
  +DWzPMhuhI2GmB+MIklo3jickwgocUzPeAfEY/4zhm2ZJLEMT5Sd83uYB9NnkqfM
  qRsj5aMYk0CzC6RiJNW0xxK/wYACUTBqnmLvjEyn9BDJpFzffDqsUsTy9rBuSeMj
  k+PRzoGiYdxAn8+vOtvNDc4HxjQSIooTyMSSzBIybkUxhotvTyiQ4kooaDQqubOE
  wplfp4sCm/g5osbK0OPml+6cSUchaPA60qaeurnfD3xlReO9104X22MLClNFQph2
  Irl+iex1kxwmjawjhcy7jVzkqjH4Z/0MqwF0wb2z4JOjighhyB/1oAQl/tR2UTnp
  MqKKEvXQBOZE/40pbezjYzZfxjwqOBMhCOwKPg+TlchJCxNajiDkScieQiy3eDak
  cmQWBJ+LUhNPP20CpxWBZbRuLivoXPX/sHuT/hjtaknKDGy9mpIMkHyZliJ2Vnd1
  t7tz/iFwGTUNJBSQTYZksICsy5U9zvWUMU+kteyKAq7G1Xtyw99g0gD2xpUWsrmN
  oNzxYJrMw0JPYt+ptsIrYVJL0rD9Dsh8Y0jaEPfi8eeHsP5MlLRxIp3z1nUZGmK0
  VJveR4QtICAD2lcNFpQriyRglloQEQhoDKsMO5yA+uCRhsihhMqrlmCuaWFKRjZK
  N+0JGpbTvjrlffEktplzUTwHsHfJG87swC5Pgynz2ETq94kIw3lUMUuEAMl4gQqI
  ECPT5UTIC0RD8FrVs37V+gxv/byAOdNWx8NdT/miFagPq50DTzPiE5Sxhyyf2eVo
  DRwbGEnCEsvOVQSiJhGloYvevlcmPzcwoDbTU1fZMYpI+AaSJwABsyalBc0UCYSW
  8KGjqpPGmajgjkKTapVAc4gNh8yzz4e7uWYcct6wDA6Lq8IAwfQWizQUDl4EXAgC
  WLICGrR83Q6sjBw+exkI0h64EF/AEIhS6v+5OpfeOK4jCq9FQP+hM0BgEhAfAoIs
  NBQDPZzYQawItjfJrjndHLY1nGGmZ0iN4oVNmVYsOFGyjIHAyMOxoigWZVIiRdHS
  In9AXImC/0zqnFO3WggMSeN5dN++9/btW1WnvuLjQFQL28FT3ZRnK+Um+PnSOGn+
  oP+kQoaaJZQRSxdQlZ6l2bKYElojCIR3JmZJwnFFXkd4Iabk80ecXup/nONNVkzO
  ym43hN8gGyAcayvI1fDJXIpdUJIQt5biyKfnG0mBKjHZjJj9oK6La2/MzLS96gpt
  g4Zui/sTNru/g3MkYUodGuQsp0QfPJ3QVtrOHP47zKmr4Quy54kX6bwavgKRBOlT
  KFnC21rgJRYoVtlkncTVMoTFoWenGBvQn4WFBUDRBlkXWVZhQbpmAPtxwlZ8tktg
  VdR2BbMQJK4M+tfKCdeQdqq7eu6tMu1PlSjCEsApGSVTTVjaQcOOFzVPO62NMkQd
  WWi2MudTYmck0iP8J6oKCouUkVUsElD3SbSUCDunTrHv4RVJ+yubqM6/g/qYeyDE
  dVBgQhi8Ylx6pTuVbMaoYkcmlp/tpYB4cpmYynF5eTl77/2UpHQG4Sztn991Wmfe
  l2IAyR9vxq7gmg2l7Ly4L1PmHz1jpX4xhOXahZ6/bjIyYQtVZrcOSaZcr5BAIwYq
  K4b1C1f15WhzwZ1b0g77HYCDd8KGQO4O/Ei223SLHruRdbIoZcPS8snT7n+jVGFn
  MmmcsdubyFKCq8djctY+9mQHLaBtyjHiLtL2neXI7p6x7jM+FvVgDvNzOtKpLr1m
  h2aucuAM41KFIg0jmm02Wo5sSrILTEG/fX8Sstcpr0tso4pnozyLiQ2U5a0spRn8
  oiqtL0DsmQrlnQTjVCNomCnFKFA8V0LIUlfJVV7lxIbdcelaErsFuINPQpE3amfu
  0tIcrsn+VSbFeB1EJihwu0rD/UAqtVChk4MtO2UuVGQXpYjg6FuvsLB4ZFWyICnz
  Msu6ef6mjLS5joo4Q7rZz1QXTBv62U2fk9oPvEcRP67c90MVtiI+O8+xbigKOAy8
  Ggru1yvlZvYryOLytC2pq8j6LOK5Ok55o0mbY0sHhIh8wObJA75RUv0HiLfycEl9
  uyQBlF1+ymrFXiQvJu9RfuLaYpZRSvdHnXQklBsqpQNbFj2tYqfAfecINiIyG6Tj
  OpMlGpNyLfDcD6ks1hGHTjrDG+MLbQgf7/PhheiWyd/OAI1ssLKnnU4ZCcAZMsi0
  wgHnGLAy2wOftw0ZhascLlSMq1jSDuwXicSxP4DoALxF3qu446EUjlp5sme05oyH
  sOcTMXTg1VukqNRqsZmyTbJIqj6TIjVcqcdaDyivo/Yb51DZr8jQrkOkll3WuguF
  sUSFZxcWKJ3myb2EWdLEkFDsFbOxIA8yP3VkNVB681PsuVZdM4xahU5Sby2h6pa2
  MMmLk/fcjirGa15IDjd9llY2yN1192chb44c2zkEJGaZ98LdXC+3h5bri+yyi0iR
  76mUXpaPRIfGYXKWr6IIC4vwQMUGlOwofbxUzP4QzAYSZ/LJFMrUsMA3SmnnsMes
  sdoSB69RRpFNL4WcYU+FqimYA2BxqgoP7JlhJerwYN1VkFIi697nRM37ElLjOcNY
  DB2AsbtR4USWsJNfilTiCfWxDAxhQ4H7gMXHWaZUCVP4dHmYpOvuZ4WJwfwPrqId
  98OxcE+to/icFPFVYjPMdlS3AQ0fM60AO0CFnnWfd6SbXcjOlmv4074YPpn5cHDg
  SQJjiQakRyTmgyqAYjPaF47CV2Ar58iWlmF3NfbopxM3dnpFfE0UdPR6s/Twca9y
  eiozKyGXt2lZSnxsQsBI95QgVTegj5EaycxlXhijS2ltP9MknCAFG60j+ZtbnXEd
  CILMdav2YimeapGfvuhOM5S+gx+F0rU5lf5rzc+DdO4xUoLuIHNMtHd71sIG6+Se
  9SgFfZEloWE/og/i24J8+PJvL//08u7LP7+89+pjUt52v/8cAKUhzErY+6UqbHKl
  oTynhqXmiiZSzWy68tnDT8fLlX9Pe6/KaWhU0jTKoDpW1lK1L/BeqLqQxUnzF3Pf
  hVmINzqljN4tniNJeKsBq67wbCnXrBqQd6C2DJZdfBVp12WIt2p6IPGDWvF4rNBp
  /xI1O0jTUsSYUXPbG+B5JPK+rlK+oAq1vHp2PfbuMjiFML1zqb8kt1LtDWtz0qPV
  iUOHtB8XLdWe+VfeyBNUoUz9AvmVNf+/uyi6EHAJ1HuxZtpe54Z8kRXD7i4b82gz
  i6fEwruCcIUIbMiREGMtYRVKFkmlyUJe0WOSiB6KLnW85e/h1bdgML04Or5DitIh
  371FJhK4Uw/t36f2+aMXz8hjCi4VqUiH/Bccq+fkTD0NmtRuw6MSyYln2U/spOOt
  +BQMrAOylQ5IbXpMBhZbiu+9+NLZVYf2nT0nJTkhSmyr4zv2CXhYN3WVwZF64sQp
  vEL7PmIfHPFvMb3EnnoShKztYEDteG+Al3Uk4he+wRbiV95ma0uiPOFsN63nQJh6
  7te7Z1e+w98epFfOdxIvC78Dlao5L1r/jL2uNosoRoIYz3yLffGU/8/f2ns38Q5J
  VBqRp2R/iSG1F9fxyEctjdYt8q++TOPm3zt47chP0lWTucVPQfMSn8rO91cyqg6d
  OAYW1tGLL+IchxzRXW/vM/SpE60wHt/56Ccq2YH4YxhL61OMG/sg+u8Zz/uI/LAv
  yM9Cn/wjnRc8M7TFR0pMsudp5lgLQQm7Y0fTWN45/tTpYVv2yy0eY4+EtR2Sxbbj
  eDsv/hK9wbbwStKM2LErB9fsc47RDo7lo/wRrzZ9T/PskK+d6mVjfqRZK7oZ+/1A
  r47/4HPjiPNol3MXDDK2j7Sy3we1DGP7Ha4m5v0R2625+0dr07Yd9VtQtE7unTx4
  9dnJV3hSOBVM/4oh9gRUKNGlxP0ihWv75D7JWrdf/Q6kLfueeFiJMpZ++9je/Yq8
  qo/13qutk13/xRPncf0H5DISpD7hE+seXtnfW9Yq0LoekB+GX+yRPQWyFmlW9um+
  nf+2vXJKmB3ZrgNHsfPsg6pFRhlZZieH1oJ7+JX94i7fA9dK1wpm2DfRG7e9fQ/9
  e1snj+w/uwa2YzuYauSf8fv/Tjy2dG28Gu830sVELbsprhmOBJIarw099IDX8y8y
  vx6iLepTENHsPRDCvA/serfI3vrUfrvN1ojQhe89Yk9uWw89xBWxH0iBs895NSKJ
  kdh2F2yzGAV8b5cssW2QzEAdY9/jjJ+JZwY6mn8PZ7uvnvCRtpb62dgaJ5t53zuT
  7usY479jZoAalyhnfpRvOJacfyf/9Ovd0iiSqPbA2r5t1//1yT56GDPRWvMJx23f
  3tcMU59rJt8n6WwP466+t289cFLePmZMfXHyft4FFWlapUYYITzbiBbmutWKv6vn
  MoVvqcq1tHA9N7pbTRQsMsaw+Rfky7Zu0k/xYGV/oxoOqE7xGBtlMXDJrkOQVVJX
  tFbk9Wo7ssqRFuGhxsV5hcFpScJn5uFuD/4n1Vo5opOZnv1VFsluotHnAtPVWlpo
  BD6lIASwHFzgIyEOclfduys4j5fDcbv7gns0KWtK0hByhNfdiixHXi95ejzsTbv8
  Yg1XwXBILU3PLFDLNEIYkkGyGrf8dtyZxpPVxNnruZ9f/dmHZGx9GLukUang3SJg
  2k2kp73YREtWbadk3QWza2rqrZQ2qXoxkkrC3XQOQeV2ZxBKRtVfzhR5NxMV2/rz
  LUE12HS4ZX5d5tiVB6ikLNZXByOHHCWCDNwOvVG7Hq9D2qjAD3Q5kyvMjuK2PnGZ
  rPvW8uvK3zvfqq0RN/SNy81wB2WqB3q/Q2WyxflUsmlptEoP33I1LIZl0K6kX+M8
  w0ilOKN7sKqyhmCk9ohf+FrrqVNh6TRKkSJlvLFSlEhkcA07p65KnF7ICYofN1Ou
  8YG36exlVjISnlP5EvaZ/KTJ6l/BEeU2NPv7wkqX8YiRXMNuzL1jkwuVkQfD6dqM
  OljwVMX0ZbEtlyqT5UAMAhVyFqxW7Vo78WIjLaJnRSmPFUuG0oVW9TdoaFqDZ+a6
  muLTM9yG09LqXS5RkYx+hVZjHVZyMrNTr+cp3qrqSv4uHB+6yRrngtwRNHJTRRCm
  7yZZTr0cvsoMleX9Jrvc3EOJW2V31lwjAJLQVArN0AHWHoJkyNtVYeyo/iSTH6gI
  P1OmwkvyPQ4oD0DI5R2WicgQN1psBK7NumPHYZlsHCJlyHAByRLMDekcfakR6UmS
  oyoZc6gY5341ZOIhKC9bOniDvQlrC9pE648ms02wD/B1H1iVaeXsQO/bwtJDbuwA
  coI+ZiLFlBV9A1IjUuT0rk2WCn4NW7az0Dm5JAzTU7UkPIBPCYGPcVEqeZOSlHrY
  Od+aX2zkjR7iSJAWn6luqSKyvjgfAb5UPhHrQ0UalfKWmRxIHBweVB2PHXi8oMxU
  pJrOwDk90K4gF7g7rFT/rrzQrDtRwRIyZfq+mf0orx4dbZE3m003Emz0rwfdHbJz
  dmHhh/ChOPNisZE8MM0To3y+NTMXIKG45wf9X/ZThCpLBfsQm3AqERzQQ+l3lG74
  WmBBnjOynnr58P/EFPXbzWM8ydI5f2WxsyxnxpWdKp+IeDcL19nG+5+pVA6PMNO2
  m1STPYAgqHEI8htKu/ddQAqPEZTOfS2foQpvLTU6fTpfvXwTfuD6hh+Ev6W9fr2d
  +bMzlcGDp9FjKfTnrjkfomjiApkL6BTNrwfusl5c/VEaloK4io76zDECy5Mm+6DJ
  B8USlKXg/6YAg/LHrUOSBg9b3vnNuPIHq/xhdO6yYtFYqkXpT+zlb1laA1qyc+kB
  kEGNBE80FDFlk6tRcFGAogeqlgLLGrk3IcRPOWecQKFcnwsmXm/y9muL+ShLzEdP
  nJvQd8qMfEgNvSwZrx5ax/9xdW27UWRX9BlL/EOJF2akxj1MXhLDECGGyVgaBBKO
  yFtUdpfdDe0qx9W26VF+IZ+Sr0g+LHtd9j5NpJEwjO2qrjpnn31Zl54gdJnZGdGt
  Vgyho7c5O8N+i7/hBMHL8nCXYVO9RrTGrWjTU3KHuU+aeaAXWqjIDkYvak7P6RYq
  hQw/EnnCQZqPahw1PRsEeKZeZ199zxzQR0IUSxqKfhPcoeQ2KoDQpb2F2MXW6yYP
  V+gKBX+6VsStJl5nnnhR3rpGBqAcp0snFHOIyiWFPj1/CNmhWTqfgxRI8ahPP75P
  nySK30y3AMm1cVYndRGqidiwiyKl8a0poEbGMpflSUkdfocFx0cSubJR4xkJJCG0
  /Dyn0Ub8siREUy1sEGap9YUh7ehkpB11R+5NY3E9PkoTmpeGBZ/p3LzZKO4AtuXB
  XNpmQj4mEQo0i7OCBxOiUfBDiRVqBko0l0BXUzf3e76Ety0p67sCIqVGKo66gofO
  1uKgrk+lrHO6xsVv+FVGX9hNOY3naEySoJvtXooogrum3M52n75gGJOiHuiJq7x0
  fMf6NXwvfmwtqoPAZgkJm9O5NfZbmvfEi+X2V1I2r7F1RHHvJVUKESAOyfjP6SmG
  LU2QIqdSTxrMmJgCBND5hBJ6+rFY65L+Ww8Nvd1ZHhfzh4knPue91DjIW6fjq9Rw
  BVrFdNeSanF7a2WT0NiIo/zUhnRPMr+LuxprxtvAklwwJlscHR3kkyWZ2s6el+Iu
  vL0nZE1WXXHVJx0G6EMcX3+HzeNGn4K2bIbzyfQJm4aT1w3/z5t2OiU3Jj6FBlVc
  nu/uKonEIYVRRfy1HZY/IqL7G5y94m/Xm68p5HE+7B4GiWek0RuWRglNb6ukvUcS
  kyDQHBAQbesz635Y/nz2c/c3qAJYrJWQHm6b8WIv1B21AuPHDBHD/l21fL0N9Lss
  guJGj0ttoKPwhFKJ1y15Qoyy/09CrHiKUJUaWDLGTelTLFrpk1SXuM8P33QETM6b
  Uw10Y7EMXbg/P8fZoLH0VXYE5poRda0a79INNfNU4TM5n1e6mGBvHl95Bj9PE+/4
  sV9b0MW0yrarCvRcKLAJpm7RrTMFBjG+AEHVGsb8AOg8a0NSlwNpEqFu50Pj58VV
  //LuTB5wr1u2jQTa2crbahksWAEyoSzfX1wLy/CcE2GtEhDH1hRrWTMXSzaWi9dB
  qMV3TG8FiATsxA+qUDOjhP2YDjdkJeGGntDHbiTWIo6g05ZPJpqQMjzwR1whyiGE
  eeBXdff9AZdv7hqvlLFPp6tWFGeqJXnD/J5CF8Mh/4iKMp1qNH4gQ4jWmoJT0A2j
  3Q1ttdaFpjjf1ztOwhl2eBT2u2cQQi0LuUgunOliE2h8vQEncGpZPM45gAT6ldoh
  cUmpEVM8AJwToQuw5FrCuXi5rJN1UH3OsroizB9OW33RGKIza4BnnNMdd9UZSYsu
  SrlW1iYqE4+v9NSGghQAyUrgDpiOEX+Sh8NLaOvZChPvu4TRQSW2yF7chPlwsN+F
  wp2w9CnyrGQ6di9xADRtS+okEptEPanD0fXEGMZ/NzebUubfwlM1HZzPyXnlnVFQ
  iCvjQXwCPoDrIdJPuRafJSckCoKCzs9nrTRKEB0VesxIxUi4Vknjd85JPsLMu69q
  MU5ELCwK+chDGZapDRL658LGbcbS3R9WxkGiUNGfXDvF+iOMjdoW8XvfcYbMHCXl
  hA+wYEjSZ2swxqJtdMZUHSQdrkinSa/7HTmXvLMR162LSTzjqjPSiKA17RPI3M2C
  hqg44Xv7QIUK+m5TO8q8zF3lfdzS2AZAZHdM0aA7SJIe744qkBLeTKHUyLlOixG0
  aBDEeUc5IxZusVIzCam+XL+tpma/rRlxlFHUTorlzGUEKvoXrUkWbPEmy22i67uv
  19txPpmufoq8pWjuxYX/untTXEOLiPOxAaUImUYAPkmnIii5obiP0oQDMTVuxzUK
  HyclaPtEdVD/9npwGFRXjSdOI+lBmAsZDCI9e3h6vkybZx5cOHAMQ2qtiheNyr9Q
  oU4MT9zDl2G40TtOpvOMANjRA33WSoYnyJM3LuLjfaVPZrxNNlwJwnxhDC62lJBn
  7Iq5nQa7zLghiAdiaaSjLFMJLkRyrP0cqOoP+Ag1btOF/B9P6HMgkt3Ud0JrEGgk
  da5uCfSWIA/b/ds2k3jc6C9+hbEcFq9awvlD41TgspZBNHQf7yiZDC50LZ+T/uPf
  AB2BoIWSvAGEpnLMJ2OcGC8oEfiSBWgHGXPKugokqrwPe2tCJYCVFRWaYFxMKHi4
  CzZmyjgWTJom4JEQqjnRcb54ad1p9vd35JiaoFratWAZKFRE5NZnYy99c6mzFc32
  CAqXYhT1sfB3alg9PnqksvvxEZ6vT7JLgeoP3XIRXrkvmPCZo8M9P3WVe6sVwWf2
  oOoXh8RtASFZ02gwcUtvXM9mutQKpDbjrDqIKoZUCWyMjO6inVkpm4eNkuXz9wd9
  mo4CjdNoFJar35f0VhCDoylonCQ0FDoEqfwWZzCcDjfnt5u7azLkddRtrJAaWxqq
  oo6pjQDL/gNwc/Dnvh0SfcoEUp81LbERxCAE6PCKIl4dl1TM2DTdU/qbXFU9FMUy
  XZWxaNXDit/tt/5s1e9L1R/ESR2QQN/dyQceWh5tZKaaTPt49s0AEQ4MueDapY1v
  rwiquzMEyf1DVQDeH4G3xtpP4zvsgPc4iQAjEwMzfV3j8UEnCnOTqAu0aOlwnJWl
  Tsg8yXTysj/Qd6Wbjefreyid0c3O5ALqn1M3j6kQlrqXQaIf2cai9EbbvLyzctzR
  4WPUYgK643s/tKpZnh3eLYV1f4Ba6BXZ8ed7PRrD9g0/tTKXUcQ3ICLFh0++v907
  diLf8FIUA9+2rtoxt56Ig5acRjKStVgnsgpqU8L8uH/+evwxNRK+QWNCHHibk7bL
  JgiAn/E5XjYcgNt3awiYElFK1/YVtTfdleGkUYfgdClMqxMt91Z20/N4BG8jqAKt
  qRIVyWmpn2GqbA5opwimdUf1VI13/OtR86WDMEVihxR9d1LIaLRa/SKVsSGj/Xpz
  w33pXqYbgpqkZt4r3DElDDX6jq/ihKR/NlcJHylDVFeY3bUirciHGZjwNrfZASot
  GixalwlxduGhon6FmUUR43p3f/iGDAdV71Ud5M2YWtW71avRmdNG0tMUL4aMYqn4
  sALk9KUmTee7EabkflCJoEaQWCuh4hhM42F2vJW9IUBDlretErfIfoso6H8tGiUO
  4RnbEqK0b1vrJJ3IsRlaq6cpzCzsfXDrjeMMiwKaGhVVL17zLB45mxE4zC8KWcjw
  bFxcNjtP4W/aoXlM9sIlzmCQNmx8jXfRCjxo/4x+DspVVKI1fHzTDKJ6qCkc6Bp6
  cb3KE/bRI/OuRN/qkkvmRhjFXKPakR5fXO1zRqNSyxz3TcthkUYsd/CducmOAMhN
  9gyBwqxfgdO6+RsWBIRtvrilCL4+WvDbzSttqg5e40xG6L+2kj3uJyRYRmSTPN06
  AtXGxYkjOVUqB88ZwbEn/N6Qh+eS01HLN69ch2vX/SosVrVNJAUsAIb8KC6YQN/K
  JkyMtFetTGL2ry+bYtUinW06LNo+rY92rcjkgKPIppmfkuMyvEH4r5ZtvJahasiP
  LeNv+k4LszSEi06tp9ki7KzyKcDPeCYCPv8PU3eTV0Q+wwJN1geemU2gIj0omAhO
  f3tjQMEB65s7lpvsK/tb9eE3THKcl2A7OVuRPA33G5nTkilwkg/R6vZMlyRqUCZy
  7woV55q0czn1Eg6iJG89Vkcd7k9soXtkxNKZcGqZYmbH3LFUQBhth+L0K2cRTEiU
  nGpLQhUYhe7ox8dvIDR5W9KzYHKpfxarHImx35A/BVKf6/8fJVeU+6TbOWsdLbkz
  MHn62Gr/1Lj5sfsn+1EdGzCZAnEYcpMNCsnMMAwmL4SlUREu0hVI+RksR7bqFaN8
  oQiF2D8jJfC5YSKBpCa7P8k4dTmYsyLLrAGHmqhxijBawtl+IO3hGtz9pdM6FO0u
  mFDAqh0yy9EkNU0WTGRV0vB71aTgMhrl/pb3C/eRivbiTnHZAxiVW68r/e7r1sJ3
  BEft32TmFpSnx5wt0q0K28fWgZgPOy6b8dEBRGjXWDsW68ZmmKtgqoEXejc1OrQT
  n6TT73Nm6V3IR6JzBV8+OhAKg60CSbor5xoyC2J2QX8Lxkn0ZGfsFnenyQxUREKO
  OClyuGMJWmM7LI/fmKER5ZEvIVecfmt5ELZv1HHB1SJUo+HTN3stteblFNffjSwJ
  GFbuHXcMrMGeLGaSKkvnXDUteZisuMHBiapVZHhtdy/4RC2jMTLZsz2DY/WxibxY
  EwVzvNiXrHyEt6mDXI/GYBz3aj5UTTPui623U+mQaI6OPssEefJTidPkTG0NTdou
  ozz7ywM07WbFHQ6LLTvIuH5V5+ZZG57zJtUnNSmX9qSVui+cjn+SEdLedOh5G0t1
  /O+/IERfrJg5heJWvR6fKB5NtLfpRGLkcsEG0X/+3Wv9miYzJpulJ+xChul6DvAO
  b/yTOQk34BHSRIHHIsAg/fWGgmRD/HahQ9JBildz6p6ijLxEY+AUGSduEhUr+tmr
  fuXUEt9xAeVcXaKEeyPa3NlefkY5Cp1eyvcWN2aW3M+FOSd3q00vIg/hAigNpf3I
  b4hdvopc6HMP7fXkFc2TZ6V8vh6mQiaFo+bL+Gxgud3qdtA5jmwInzj1I/kkUWfx
  BbC61RsS4BaaPKQiGXOjzha/HCMEXNW7oKhNXATiYin/zW6GZB9OnnQnpRB2gPCd
  0S5Of6y0WkBEWS5LqOnovTxhhSVKvGN8Dd06jypOyrgzSqPVAHX1Z2ynMWKmltkB
  wDSfoJxzG75gedButHAmCIjfdQf4oIP7XzYA1sWwXD48PBxfTdPV1g47v6et8JTZ
  8sEUW73nW/MiWfCpy6jJ5qBHLRwSwLYnz/8Y+aXMFfcQzssbOgD6teklcY5tmmfH
  H2FRIU7he3v+p4PfmR4lcSIezL9XP/7QvufZAaaKxzOmXufxvl41EAysdi79gJ6W
  fMfT73+54zANlcKCuIh7t6Rq/vsTuijTrU+gFYS+XYMJXZF+qeIN83XHgWV2/Uxb
  qw6mJ+Det4b1h2Ec5/32Ph5A/7qlxYuXeMvW5ANyeGnoMFRSUuYfaJHYOtv4s28A
  me3+AJF2ZPiRgNaF9uy3UUa8/h9ZV9cbV3VFn2OJ/3BrVcIRJmleCViClLamFUWk
  qA/9kMaeGxg0nrHmjgkWRTKmFCKgtCpBtE2bptCCKGlNjIMTx/YDfyD8h+A0/6Jn
  rbX3PhtVasN4fH3vPV/7nL332ms52VfCMXURCB+IE8uTeI+kSKBJWkun+ER/2oeS
  TnnhyiDZG54Z14G/fz7BcFyNFKi1SKPjWFdfIoEiuxR1PNVrKqvMw7Vkdfbxsnkt
  U+560BO6Q0DLhLbry98SSD/4QUsbv1uusZfuUr89HGJqZUxD5hubDg6i5xRtqZxh
  iKrUQ4vvynPPnD0OP3rUp38zZ2Aj5RNPNMnBcLTAcjubUEbCsjNNcPoMY4fn6WkA
  JOvRvTid06Ux3wRia8lbalP/nE6p/ufXyjHYKRGndhAr8yOndxbBG6CDxXxC5z9g
  vJKGHyePuoI8XRNS2pPZys0bIHRDwqMUAPPZvlW1fNTxlv6EfbCkQ2UvBlZyBXrY
  Lne+smp2lUUTj8yWPy2HT6+y5bnf0E6MSEjwaLLWnj7Lau2TJx9/svQ4xsXEVsQj
  paQawsRuKxJ6tAmWtzJ/zqR3CO4ScNt962eQljv3iwcfXHi5xv9nwvWgknuABudN
  UkqestWSK+3M1CwHR2dLRQXnnD5BaVb40ATSro0qMyilXl3UxDkXS5+kfaQJKfOG
  2dmRj3ty8k86VkJstwjKGp+Y6KmEOMR+YWo7D6cs8/fXeMKVW/oCAaNDhHYtgOup
  B7mSZbnNz5wYIR9K36QC9skVaOjSmYztVGipGIfVF5uUojgV6uSlvane5dQKAHAx
  pnV/JGzGfPFnGQ5U3Ll4AdgLJK3rdT7l/Z8IJu/ZZoRlTAel6yrMcLl9zFXUy/UL
  KZqYtqmZNIxNsICFRIusC4yZo/vTWiiOzvCc2+d0GG78UYTiOl9cyn2sK7HjRQvF
  t5zCBRoS9gpHXSy9xRa9uDJ8SHtQZdUAqy3Sl5JsCfJUOlJtDFgGz4bodmnhE2V7
  68wBfyrZedR/OLkFYlgP8iEPTdLWcdxcIa4vuLTF3GIOI6sZFC2Q+4MoOWECXRMc
  OOLnofd9MkUeGqooPzfol0lwugxpuf8ScbiydWLCCv1ujAsC+OaQ4u9d2fdYqo4y
  NduemMgFRKJSJ8ANihJ3FLIfhOqo1HzKOnlyDHVwTqX5VOnVzRyrPm+x5RHqaSt0
  jlSMTvI7V1zehhqGx0/MNpWvZDXZGVzvTea4W178WE3nzMwkxx6BtKFzyFWgZPMD
  y2p8D15v3SO6BLOXXQ1TjMG4H8N8UnBOZ5xtIpTMaWqhjpcqDOqhFFBsUmi7CeVW
  oa2GYysOcX3kNsdny/ePNhXcmqDBTUIr9IXa0vsv5JIWZeoYX12qOXkiy4XvaX3c
  mV/1IDNDNv1+W6MYtUKtlvX0hmchMTNtnoFYSmm5nz76Fpbm00eUbVUuhBw+nuSu
  Yc0mlQd2iyNqZc4zZ1sf2xusVH8HlCKc/oTPRHAItNJj9xdWUy6KRm742NoS/iZt
  kCnI18jj51LqT2pUV9Q15fWHJEhpgtZtMZ2FeIgzu5fcqTppGwj5xnhNnlsrP0n6
  mL6b7192PXFeDPZMNIFS3LdxRjMyJvE+hKl07Gd7596kjQQgPjvgvFuh3Kb2i0bl
  SoDAU8jSkK9A3zlMuQxo4MsNfkAYBNeIVX8S+N+K/eMsqSph+Xuj6sncN+PQPIO1
  hHo1bvikZYJi8a7CvMK1kB2ujHUQMeyB8H+tszSf46XAueh7LnO11l7PGCFUpL1G
  /9a432wjXqRVrqPRuIm826T1EtHhuts9zNWFhJhnMs1ycvxD12FMZzDPYSiLFkBA
  duYizOZAAGLqMihEh19RG9LSVvziTPI7UlLBag21mvEY2nTyMdvhkOFPAYyK/X3R
  a1TRrmSumrSXKU9n7LM4ZzSWOxKYRyFgcrBZuUrk3bXXMHYqYUHLXzF1SVxNh4Ss
  1fvQTIRWqYOFLOUwl/y4xWklC0RG1Pff8lpc4jiHK/ckhPGjyQc3pCGncSrb69IZ
  ZiRuMb1nSAmDOYq+sKUye6yo4mZSThvBEXRea31pPOyfDm45qWoi30u4UBQqwabV
  8rqBtCYU8aC0bPPT3qRZXJxyhZBctfN1nND7NMs9Y9ljDr8i1DmfPXTJddcx8tv4
  GkRf17P00rowRYp+n4lYioRZcZrou29ie0HKvzdgiG7MoXmqBpyT3RuPLFNOgEyC
  b7Jmxm2LvGXhXhyYaKg6ojb7qYRR+5epzCvsu+q1FLa3sm/svE20Vqpl91pUGk1m
  psxCJPCDsVSrIizEMbGOyuxz27iQNqeoeLL6SiuR7VI5fTebYjvaH4kXKHa1+iyu
  A8GYA3NoDSfsGEbeDtHGBjc7Ha/OBis4ka+BhM6I5PucxxXJBju3EK6g7DXzBp0p
  iEwlQh2VPZ00Db2fTXgE+QD1pxVH1Zo+2kMrBaSPZnEPlQrLz8ILOJAy6oXK3WQr
  rG4Pe33rPHjS2vVzLBHEvQnFNN12cA+1RRCyv8wIRrFmxxyyrc3iT4HE7MfLbfUj
  kQdw/jXMJfdjsDYFZNfMYULhvPuzXudrGGO7fyr3MjspqQxuOgHfqkGr5HbP4HpS
  kIprlirtKfFCk9RBKw7OzndmFyrnvJjkpDfPAgAp0tL/LQ0wmgMDZnnyqXMEvnNl
  j2DVnVUdGcJlnTawqCJ7zLKDNpKwWG+etx8kFnzHyFl7p752cF5FEgj+QgLoz+ju
  iiGMXSy5WCEgLC0++Ag9o0ATmUop+yr23Hln9OM66oCfkyxFl+I8Xv6/ztxo2Wwt
  zezytDiOzMYJhvokJBXLPATrljEL1E3ap4L1AabD1iwC0IRT8cgAMZ1hzPli31jc
  jBhjPSUQFr6ijZyy6YHIOU9Nd60Nx2gAXWR4WxaiVzsMNta1yK1a33Lxh5A36mh4
  nnya51KveMy8wNJjMmUG2GBEh1uVTkYW1+FPVuljwrQ8E6DfeszzWzm43V/rC3Ic
  z9oa17smV7UT2kMWTJlHbXbJDJ9TlYkOH7Kxsu1Ov40tzyolLIJSY5LpnDlheMY2
  dkemr7Oc1dUGZheexom+eXwF0G7Px8u2NJ5dnI9zEbPxTVAko39oRgbn2rlU5ryQ
  Gpzgh00bEP9yJilHH7fnUXkl22jF26MxbQ4Wjc5GbnHacHDKeC1WkNv8Uor/SKde
  6zl0pXGqFKiJ9mSFihGWa5VdUuXhsnsmw3UQq7CgDzE0jIrBuV8YLKs3S8fMpUB2
  ZW9GnsLOOTC4HrfpMV8T3cI1ay3zGjTidq1GhfN8ojl+HpUf45WoEkFhg/u/VsVk
  e1nYkBPUO5tOnfMb5/BOaIXwVee93AfjYpBr1kP72YlxHlcYV41uQ5YE2g3NCKwB
  2Un1pDbx6dDiAFPHWfi5vqtlD+yCynYxoJx0PfsFuFcy93ZWrPVOXUu/wCXIYy0P
  RkEXobh9wLpUgDW19W4gqNJlpXWqgTUskYFc1n2vlvKCqrd/UhaRbJf2fq82NTuz
  5nHaHgFddvYmKnhA8HRsCrUfyjmrawPeBipsxKXHpt3suYayu+tsDM4F9E/1m85a
  EntdFd6tILlLbeL+OXXylz/vHvhV+f+3Tz7bHn8JnsD5pn35tJ1JuJejICt4sh1R
  AuHv58ZRTBPlLWQA7sUcnkD1XiWE3bFUABTV6XH+kS1KPEpgibY8zg+Ptymnc/sS
  +fW2ybR35auN24dkJ9wlQ93/fz5wfjEwch1d/eDev969s3v16L3XpQptn2+8Ep+P
  Ll2498ffQXz5nd07N28ebf3+6N3Dr29euvf+4b3X3/r6i8/L/+5+eHDn1p/u7O7d
  uXHh6A9v39m/dHd77+7e5XLl3avvHW1f/O9Hv7Z1xzR46YmJYAaurQIQwfLY4nVK
  lRcTyThYn9q4YwcNWD6O1zgTZq+PGkrc/8srEmX278edlOkYXYby0FLv+R5FloUC
  7ylZvw4NZt0fyIByxY8GSxOeh6k6XI7aYmIw3s01HF4dJ+GF4sbl2Q081d+RBxMM
  m7WNPUdm4D4SDMJr9MeK03q7wLeiz8UuxmfczHNnLeTuVlqDK3i8bpxRIi79LHBI
  RPCBtlhy+dEemfvAGQiGvr+R2fAVMP9VXkjn3fzqLbFJgv3PuBgrbyfYJTfI+khW
  RrFPljvskH/T2QqdjROMjPGsr97BHObsvJbvY7yd5BoUG6U/mz/v394nV+XnnPnX
  8VMwF4KtMO5ZrsIdPyNP5Y30rMSNSH7FXXKK6pnOibkT998hO6JzW+7yd2TWLH33
  V7JuiuUweDLL1bUPXwXPJTkj90p70RYwml4Aa6gxdm4nrtBt6+EtMHSCXdT6BByU
  ld1yp7Se/VPGxfsG7I3X0K+lRXvGvLhFFtM3S9uvle+MAfT2Nu9yWP7uzcQhuZPa
  vsV+EnPnnrGIknuSLKZ79nafi4eVI6Zrdtmmz4xHFTMALSOPJ/kgxZa5X55wk2+w
  a/excQRzJZkly7NLC/Hz63wDzM94t9t/r/NWPJicW7fKfzdt1txIf4u2HJJ/8wDM
  lxzF6+CU5Qxky8vfHpLTdIv9o/cVN+uh5noZr91gisVvD42H9hbbYdd8oy0HaSx2
  9TzOuYM6h/lkzYBdX1/k59y8fSWtnVviiAWXaLCobnMe7aN9bG1dLzvo6zLCXF+J
  A3SncoSWd3mVV18rb/GOeFRtTYnhVuO7zzWAefvbMnP3uW42yqdbxr/7Rn5/rsct
  W4E3OP5bZInd5H3w3C/Ks+ocxjjWdRR8qJp17G/Ynz8bl23pn6TNvUkV5i3Xkn7N
  9MelgQ7JaZeWNglpaWSXC97mry76hwNXxy7XXKkS5PU+EpL+Z7rnJy5fTplpfL/J
  b666mvaH6X02KNF+UK/Hvzv13SDqHWrdeu4Nqnt/7Pe/6Nd86nroIVFNAXG7Xq24
  ZArmuqdJt1+uz6rPlYT3BX64yOv/k0Sxd/k4va3a9QX//Q3bddFVuQ9dmvw6X0xC
  8P7a+P59ds7lb7Zxo7ZL2tmmOR69dNEF0D9yqffXkr68dOfV2H/zuX/xv1L/f+B9
  Eu0tI3uLz402bvo1l9mQ61SNf9tFumOsL/kIfux96/f8xxtJ0PwTf3qM9YYLgn/s
  GuWb3vZPfIw2TCPe+srHEd9/yvv/j61z643quuL4cyz1O2xNhDDSeJy2b/hSuQYn
  SIFEifMBDvYYD8zFmuMxmbSVKKkNopX6VNqHSL0BsQgBY2owVdU+VP0O5tt0///r
  stepKiGbGZ85s88+66x9Wf/1W3/iab3PpSVHbOcbu+N3+aYf82sr3X7csAftt7fs
  ukf6H30u3Abu2FVLYfcn9l3f8Ervol68tv/UasGflkt2u9UzsP9x/Dehr07sCTrl
  aQ+tPw+1wH1ps/TVH6yE+nG5Lu3VO2zPPTuezcOZH7HNR+zJu+yl43Lv9Dn6p5WS
  Pwh+48TePyw2LP0GG3tmH3lrx8sxp/acvmXzHvFIsTex/z9anzyym/LabEDa/Fob
  LPe92Kr34T173u/zbK+tT54E/3AnXGPwOXpF1qX4Xm/PEavVu5/h9+Jsz4P9uH3e
  MSs94Z9YyF7v18NgY/tmM4/5pf6sybPwsOk/7/BT8qw957X/y84j9i9O/ndNn//W
  jnkSbEYM+zj4ge+sT56ZJ3+kPgofeW4N+z2vyM9/ZE/QP0o/4E8H9qendscP7S6w
  JdIt5Xl/2PAV5ebas6Z2fqIX6/5BX8q9ENv7Dc9Ps1EvfVTGOL1e7+d9vjzlMc+s
  kb/Va9RjTu0GHYdrvGc/H/IMJ3z/TRgrj/Sz8Bsy3j32+05aNLjYD0hI/ht50l87
  9fnV2RsjNr/7JejS7/b5/msSkQurWUjK+2fHpHk7B9wJy98GxvKLfIYX4IKDp21k
  cLzbYIj/SsjY+L53d/W7bAVMqjS51/L+M7RJadNHSh3H/7/HsXrO79/d5ZmkPS/J
  vbZzfpv/tg8idT7PqR4PQvcBjwLf+p4xykmR/quzyV+e/YVXAdb4Yfje++Rzs21K
  OBci9StSu4X4DTb3Pq6ffWpk7Jfkmx8Ib1zY1eSIvyJ/Wt7/mhTzp9pvB7zKQyFW
  nz3F9eM8fPc1eekP+D4o5k/RB/5ZMrqV133IT7zQ8wu3XNqDc7/Ra3ye7eDB2Sue
  8aXzur8LP09I0NY+L6zzbBmlT56Dh673/ZnStQs7/p697/cUfO+3sD27F3aNZ0/Q
  GumHfFYljuf+OiC53Ojedl9geS/Vfl7k/93nmWH/f8+vwEk/YQvMNg5JfH+qbTvF
  +9xXxM4flu2lnCh2/peCzEzY4Ko9JVLjxmSsu5fD8hfipm1bmfBhZOONBrMXGAwR
  XssUKh7s7EkRrY3eeGMy0B3HTtQGR01+vfg/SswS2w4wK+g8wEHQmG3hKRnOuuVF
  3o2lyQz0PZTU7eQfLQOJjiXUbvhEbIddRXxnY3sC7IkkW2jkd4nBP4vMcJPdtmF3
  xihrrQGNoIF4f8tE6MwUWAuq1zSQKFQ17OZLoc7dhcFWYFyBP2EzBXGSlojIWtx6
  lqJKSy3sbDrp7PPJDsKDaRU1uaK0OJW6pv1p+xo3vFUmu/PlQml4Qf31uvXlaDud
  3dHHiMqu5i6bLQokkgWKvE4xybrpvxZEJG3dyZakSdwHx32rRnkLFA5wwmtSSFD5
  +SryC7GLN+xWiCaOK8FijEMsTgrdefAxScU+7SrubRtMTSG21KIoZnBbVCclb5t4
  j6AB8hg2QxHKg+0gnMGosYWCPs+2uwaKHeSmUW9SgDJMc8SJmNMJmY+T4XNzDEbD
  J0zFDbLT7rRelVKobNhR16LDZtFqLyw7G2XW60EKg6gXwxfZNCTZoXbwsLPo8jsf
  IqxIKi/SE2PQFPGUPcaokTVasPtLrYUUEhduTuqSdKLJJQpimzAEIGE9le6JqgPJ
  jkUkIDpjcQGhR9PPGAKycORM3OBOUTVsnIGusCtMw5T7WisUSFH7qmithCygPGpl
  VWlII5vLWMIOBKyPaZeKz6QuQTUigV++OC+lFcx1xiwNpf2YDJJJWtezdd0iMWms
  1VmTZ77je0LqdX9ayjLnZ4GxF2GBjBtioYWgHAW41LF3/amo134epWzabt5tkwUs
  Rr3FKCY3FJ6/1G0m9iQfc+Pi/Jdz9Xa+ltvZGudKPgqfU2HUM5pyLSjI26qCED1J
  0Bd1C85OVZlaYpFmH+IuReOIYG9UjJirtkKxYxa1BH0oatzaJaCZD51XEDaHO8fk
  CdDDapv3FdhRbYjKoCCZIe8RLrzGvIeBUemJFES1INSJo8BV3R4NsK8uZcAlgb8S
  Ea9bFFxSVH/W4s5cVyOsHQoFPUOSKvhuqXleR6ne+30D/0hAUgidMtKloBFupcKz
  WG4EUl04pPwhu3ndTQmRqQzpSh5b5kxQsjfpD/X2Sm1wKhYNDu36dWq+TSzm1UBX
  IZYQgxT5gDE9RZ+SRz4v91s8bK8aKmBFirqrxElexItLJRksu+VOTDMRBrtxRUyn
  hVsf8l5+MHPFgBiUp1PymGgv3agD7WhhYykBrM9PzzpRCZmwTtV7MyrtoAD4KFOS
  ioTPKao4OJS8cCVyrcorebI0DXJ7ZO426En7U/j4nR2jCiswnKML/Ztr8vPUippU
  HLbYUB+r8Fuy4CUMKhHWdQSLDaIiWGuWb0UUUks485Ty8ApIwOqc0ig8qYqKEGRE
  zGhKhEt+4L4LHVOgVsq87LFanFbydcS+QTOym/DyzCWVLB8mjGxFZSM063FsyQ2y
  xARLlhmQP43R0SScJUWglewxE7aZC2uyIaxE719Ee7kF78XE2UD5609jJmlt4yR9
  CPXImue6mUK9nVTqyCjz0qE+Vcl9I1KHchr2qDs6k17L9KKZS5CbI6A6jAx5VCyZ
  AgDeTYeoCclcNOc3wHYcJgkTk/rFyvFLUQ/P1OVeJcNhKWQckG0J84Pd0ehWMo2P
  saNoOyFhqD9dVJ/KXwbLFtcJlq2ZAgVWCSmo+YgAEARB1BJas8vN72s9n/wjJui2
  4/S4No74VHIV1A6UXsaCwRRAlpqe+Wm/pNmKCvwsuVz1OmmlquTCBNDUtRdXgxyv
  faW5fNHxlL2C22klZhRnpGMwLC1/E8fD66M8pTb81WxMAQ1qtFYKcE8Iwute7eQq
  xzmrFMVSxmvDj1IAJ+lVBT3EhCFaT0zbrMtMiCdUg5vkSQkGiXU8hUJm6BdNXNAG
  EjxOfBmXqVu9/iAZYXtOshAlwdeqJtAoLJFSPEWZlPRqLXpvMD6tyQzfroI1EZJN
  kEey0WUlT0i4CrGtFBXJJ1GtWKIKvGeFlnV4z3Mx0wcqlYlPZCnEm8/2XkxFxHjq
  WjH4635Pk1Y/CkL7tBIfZ4fs4zDFZsjIFCpypYqZRV1P+TK7pv7WuDOY7htEQODD
  SpDCdLUx9/Sc1VqwHULlgJrvw0LPGm0VUDS1V3tdF19Zx1MASAWepELmDol5ans9
  UJ/+T7J9WyRsVEei6EN+MCwlAj7ER1vWyvGqIHXSbPr8lHBh1g10GVTyYauXY+Z2
  WEAhPVHHEeS/GD+PCW0RNJBYGdlS722cg8ixjlT77kwcJGTmri88bUDzlYt0y+Hz
  VBZaJoMwzc3c8vfMNKzKqaKkNYjKlb/IRjQWVJkJQYRMxfGcmnNMhWU6EC297gqJ
  dkeLD3iyLcafYLDZJ3atJryu6wUjBKAGVX26pxNdlfhw0xbPxFtS9em6BEaLR8ZT
  KwsMG9MI2wuYKkzSM3wiwaHW7SSQzIabVn6EXBiksenQ1huGxKH5ZZFjWbpyhDcE
  PHsto4LhvnTdLl4s7p4NNFkPxbzpagqdXlOY5PbDPzs2vd/bkywptV6rANKfro2C
  VvizOPcPYDtijcqAJjpOfdgtl1oFgSbpVjC8TYuWC9qqB1WtFQpTjhL0tVwMy3qO
  a7fdWuR/Ahma2tKXK2nMkt2rKQ9UmDIxlaXSwlVf8Qmejxm2VcwvpkjLapNY/Q7q
  jpHUIUvI3EattFVtgj2+7hLiPGPMb+71zHmruFLWm1Qv2hq94Kfg8LWQH7dFNEFZ
  Mh5DJnO+bJdSql7aBdn5rz22DFYvJFrSGikn86VIW3SWfrOSaTazxUsmjhhFnNVw
  +eK7X/1RtbmaZ5B5Nkx2e9lnFoSX9FTMYan6ArrUTBQBLmGQocrTU65Q3TysKH2W
  ivvF/V6rKmISfLJb1rqbZZAgCssEqb7oIsM4hQR+9NmnlqDDLSBdo2yiEnxCHs9t
  aNpkzmeaS8uxURG9i0Wr7Ehctr4QcjIWY97DNFSzwmBBBe3t7jjPKCMcsvrC2B1w
  BO4GkdFtcGa22v+CmR2V3LYeyp3b69uClx52OMxvIt0C60nj1sTLrpd164f7qEa+
  k8nZpU/StU/W08rH65c/U0i8zDyZr1LP/6TO51uSIVSlqkVqm01wO24MmPB2wsoz
  hQTdn5YdGfg+ZwaM6rBEyF4JfK6BsfAUPSjmH/kzQ04WbGJRpN+SimtZxnV3IWYv
  Fo+cDWchVKa4KCtXI7A630XAfyVCoOOLjOXSs/qZ61XuhSpdzZ55OhmOxvWtPOO7
  Nfj34768GE75Wxhe//kzKV4ahtiQSjFg1hX4lsRBXBKKhvOFlmQsFc+qwfXejQmf
  jksjjJmoDXu+nc5Xm1KbXjfXegOkqDBGkaccVrFdGRJhPWEBFVkjXFRttq5jIhEk
  PwXLcRLhECvFdm8hz0H72xf5sn0sxUf1Gxbj5tzyEtaG5368cu5Ha/nfYiM0Yr+z
  ceTVyXwjDPSLC/Gx7NQBDTS70uiJpTTMq4qV8biaIsmgsdfTGHEWvoA2eHfCchnT
  dms5Mika3768dJ6WkX1nd/d80upTOkdup7h5v9jvBSoJC3t65cKAFIWv3mVpJb0i
  CX9IAaFWmmlsoHvZ1krLuA2SZLYBxGklKbysY8kV7rDRHb3o1NisEJyEcfkDa55c
  UgeXbE47jX3stBpDeLXcKWuM5UjKLtDcXOz7TwF1SlIJg5BKHRgQXMHkKTnOR4rE
  eFGvxv4EM6h8EiOd7Jm0VclcFqJimcfY6nhDe6lY6x6z2cqQ1XgCZmSPrdbZacOv
  w9MHlmBqhFbUScJBWS6iP3+R8JA9TwxHzIVacPm+/7TUlMhnayx1ZxYbIYlA6kXe
  g1ZxkM8tiolpZIZpZp5BLiUPbc7QK3tJyIC+sJBu1p3eZlrKFl+qK3zwwblWw50m
  yYdazYvNEUTs3D23zcmtOBlNjQjLD3fjdgiq6+aG+m42bMSruOzQegZqPZ2bdXh0
  QqFXVu+ie7PIOLPtLovfmr3dCfXHZmXKvruJH+Nl37eCKVVXYiy3nRq7Jqtf/Zes
  a+uN6rrCz4zk/7A7ebCtYi4PfbGHkUKiNihpGjVpXqoKjcdjPMLxWHPGgFuQakjL
  LZSHClqlVEDsOpbDJbjlYlPgL8Abecw/6V7fuuy1Tl/A9pzZZ5999mXdvu/r5bNH
  teYkdf4hiTgNvihZJ7JRKPkHkwSONXPiKXZ8IoTAiHmwKGQ5fjxLjigWrqTmkPTC
  c43zSIwL/1DegRotYhHOC8j81XZoRnQTxaGZCCnyfWELa4eMUkFXUl+dYh8d9R6e
  3GZiZ40NSWxO9p5uZzgLiqq8rcz1GsEL1udEpmDqYAgYO107FoJ0O1ErJGTVUWT1
  lM/6P+69yrf+vP/j84sjDv9UYiTLwoNE5fQ7h0JqIaRxWjAYhZ2oN6e5fbI+mikc
  To3g7KZeN1u+Vb/D1MBszWqkqrBd0Hi2gj8DphbwyqpBxiY4RUb78EtVEjNEG5L4
  95LI5piy7m4SS5e30gyOawi/JZEAkzddlQ+MrHqKNnGqvaCJmDS3IA6E7C9aVMHV
  G45rR3dF0tniP2C6GfJaJFvzwbo0GBXHjCZqQXqSRZ29PmI2kaIBVtTUNHkxM2nW
  Gec96g1KxoY66ojuxCcrgu/v+tRTcjo/2Z21kwT+XysczSmYM6wnp/2B72B0B9gx
  Be7dZ8PXktplRwHzifoBjJPj9cbK1W0wRpljhnAH/QXxNaJu6ROzDRa5i1bn6RHs
  kLGwipNTmkUIRfdqanQsrFtRe5bTJCSbmTttqDz60HizxIQLSZArmTwXnhP9sNjD
  rB4lssJ54XovjXg/9EnJNFObincwspL7tr0WqQWKsDhRbMhLUqHQooXd+m4FpOQt
  41B3k4IvmWZC/ZJjasAKcEVPVWGHQvUAlQeYkLXjbs/TqHCVwWILO7uT7qufHf0U
  Jkywy6k0SoiiqYfg7YcUJc1BTQMz29Owh3NY9hGMoOXIPye9OHPLWd1Rx41YVDBx
  ETXF98yTdaR4h5fPOB4NiRYKnzeFB5hiQtbtvviAPk5KG2TeixYl0iNBPnYHKxVP
  YIxtcPQsQMxBO8fzKSwgDk8r3EwS7bMoDHO9+HBu6OZoIlTicdkK4LaEsy0RNpY4
  FVZvWlXg2LAgjl99VU9Tfzwuhx2boOR5bKwFOS5hA6HNF7ff6Q7KyJe8bCOkNJ0s
  oQh4IGOH1EvB0dJeJiEYy1sbYT6qQDg1LLkYWdIUKJqedYpUxLdUdJkgREJhJNK2
  pRVwnMzTUujSWe6POrpuxxqu3qgSZkqTKEE1xwqnSc/88qMP8unz6x4oSpCHtDK1
  ina0OdVuh2Vl4xkSJlW1MpxnhRSz5IxLjSoH8gJE7K67ejyfncWjt1S0Us47Q+9Y
  sMvVyzLdAqfcx2pCyk6OSLIMcW/u/aI4r+u2p6Hd94J/xKcoHWb01rCUTOotzOSu
  Y9fJVwandaw/zyLXEL6aJ75o1h1Qmvy+peGtLg5vUyzqj2U8eU4Irdqg5LMoHrfc
  c+/93cJUke/SCNubnva8C2Bc7FyZCMs/FOxVUa6Wha1V7IKzarpDH2z7iZZCiSTW
  0cqQij5VW8N4c2bE8pyfnz/XONCIG0URlEH00rRnKUUVJjYSL7YvwYKwgJ14iuoR
  FV3x3EpIFSDFXWp3Q1dmnXZjHhG27Zn/JB96A00esuCNd6FDRG1K1MfKXqB5BsnA
  CcEYzkat22JGLRMEz3c3EjlmlCnZ2Hwl2+pawwmtRrPk5OihBU8BhoVecu0iu64s
  Nb7UIP/n6yWSM5YaY40QI2c1L5PHsfJO7Iqun3nNlJC7zEhKoUilw2kRV2CDX5RJ
  ZO8pbZIIWzPUWzjl2kSHLfYsjdiL9OGR5tKgmVjoTaWXjx3bn+3f3C848tSXIgWs
  Ydj+kOSbSvIUb8xXK3Ixq/mbHQQZtEIjj4tTizUSN2XuEulu5RYqSS7PppePdkl5
  96uixyQ5sI7pMKAa2GhhBgMRoCmjz34bewHOx8N/4WykzcNZecWLYsE0EyrPlkKh
  yWb7DEk7yarCVzOBR61PdQo1dl4hgiX8pnkWyMlcmf9X2EBdUJEsYx101tIbJEeY
  JqXJslZUNFWWWfInOkdjtO7D+TkLUHntsnQ2C9D3kvGTr5Zqdnsi2pIh8RT2kGX2
  lVUJdN+++t2LvLk7tvLohrJATdCKfSZZC1kUIXje1V2AE3KhPn9/4ciikr/gv7dC
  DXleYcvVycECceNVJ/N097GE13cI+89sGq93CbtcfjPr3vEs9Jf5N6DTgUcHzvsl
  WAgUge8/2wWO/Llg5Pc8Kj1/+k/Gov//94gBoLT55qvXO+AYYBYEd2X+/LpwL4Bv
  AL/tMTpeUN7+Duu5B4QHfwZ8umNeyL+VNomNYC1wATgM/Ju/gHWE+ByozR3wHTDG
  nLgR1qyNF8ChX7RRAZsERuMF8PB/Bbp9B0jy6zIqL8Ey8Cxg94k14DHQ6C/AKXE3
  PB8h9a8ZL8MauCD+8+YC3a2wHNCVguz/XpDxe8DXU39e4K52B3pLbiQe4/9/A/su
  37PP/vv6Dq5+DlaD7wWN9ue3228f/nDZfrqiCCGguJ4AySV4qoJuY9Sc4dgeAXe0
  CTSZIu4UZ7Ser3mSf7sbUFyMp9p++9ihk771V6I3uU1BVa0zmkpwT4Txu5e/96V8
  dh6YKW7lyds9QnfJM6wRBixfeUm+9wjosa2AZNO+EIJN+7L+9gHwb48Es7XmEGTr
  4bdtPO8Vwg3Sbz+cL1gtxYDJ/R4AMfaU28RIbud/dwXJdYVQcHI/xqPdz63s5u8y
  hu1LwYhtK2uOjOclh2dbJxxiubt/hnynbcKv2Wd7jAckUbRsD3JBzXDGhDD5JFKl
  FznwmzGq6ySFQQfK8isKgqHtjjY0yZVSzuVsEcxr/WRu0AUnFYKPwuyZt8QeZYla
  MWAcMnPZ8o1beUzuVCUQdqJHab0Q0m2giKRLwrRdlNpq6on8fCpd5PihJSt94qbS
  yI70SqIbnPduJmft2eFCPJ1clNiIh582pfHxEkaA8xxC2/BFnb82ORNc1WD6N9uT
  MQs3G3I65Xm7g8HJfi2CePAcjdUf2HaePjTjNUSIDlR0zKWpAzHZQces845C1Vej
  4ZPH+exsxbfi0m/UcjPUFjQLbkNYqZMXYZEkqs4r9tgsLNlsh6hhtL5a2dHl608P
  hnPVfs3WJk7XioC3sXY79lQSjIjWWu7V6d7iYpEtSJ7FfSwGM2RURAy74VTb1aSR
  6K8poY/6s6IYK8aeoVaCwzMdU1WtFFPxmgwQ6+UX0Lw3St4Y4nxHMq95Nn6Sh3u1
  EM1xN0ragvBAkgbTIBAmctHybqawVkq5Gc94cmqLTfmrIa3ewZn03sLKsLvghIvp
  4uj3or7LLR4uZFlAqVk24s5NTnhLi9+1Pm5ldazctEyzyhVofoysAMr0bGly/bIr
  9VgZLk4gxlxc0qrm/Whajs3hgK5cMq/WBaxKmgL3dX6PowSk64vnwoGwFJIqiBuV
  8VN0lXg+paAXFZNxN2ufNk1rTBVQoR4n8nJq+ojT8HZGv3qzyv0rksjZMFVOSfE9
  PZG7iyYxp6VbZUxrprIvFE0JeTaVB18p7kBSllyEnHwYMnnfLr9RX0GFOMziYmfZ
  NkpgIkv01bQr+VMWnZGK2dlVpyMv9Il5OfONUO18gtXpeWtArwo0wNYxFzF0Iu70
  g7gxMgm8+YUuTKaurIsz/WaJpRbzE9LLa8ctyBc5IhQ6WP5kOFjunOgoW7JoMDsM
  ikZfHeyDJgjTymVX/sQSlYT2lij+8ynFS/Mzlrwz3+gY8lL2VspWha3QAWNP5TnL
  fuwpZZ2M9SzCBWrx/oChzv2O1T0cz7VyOg920WrskgUPm+hYIzv4XsrK5ipvMsiJ
  SL0krTKeoWJJTPer5IuM9YhhTOdMimU4tDSc5g4zH6YJ5kScNJVBFjMsRyqLH/ri
  L9rcDI9KKxp0H9ug6WCCJmMBuqaMHA8c39SO8v9cFWYYoivZUlqhHcdJtaUUHzcK
  rwtdvCOMVRs3hcZEGH6+Vo6UVyADuS+0OfLpE2FhEtYX3ytjlfmbEisZqYhybdF9
  9XrhUMpdvYyvPFAWmldKLLPruGVyny8Qxwh95Q5a/ga0JxuOdeqWUuXckJalqdvK
  mcNMLDdds9+BGeYrZVPZ0m4YPwwzIG3qp/cC6ZAwnyjzjxGF2UuRkdwQWieh5FrD
  R/eU8uWhfv28crxsOg4cpYSiG/1De8X3ZY6Xp9r5W0pTdll5jTbwEdNenccdL6Fl
  Zgy7qoRO20qitY6fv1E+Ik//wmxF3ykDzDWMDLd8U+/7J8zDa+jnS/r3X6DzEpah
  Z0KhQz9v6BheV2YqfqL7On/+Tp2hppgNbBNNPdOXuCkTWx5hV59XR1Im2zV8xZiv
  vlWyo1dKo/RYh25Dn3cTVEK39btb2s4TfUc8N4xHblMn7YZSEt1SFqBtx3L2VCcz
  3+KPuoKMfspYdDZ0Na3pbnDRvYWXygjE/EJ3hXqILr6hb/yhshJt6Vq4IE3JOrqq
  Dd7GONt+cr5sETKY3KWvdbYrr5e0zNw+O3qxzlgZSSMN06Gjy27IV+gjpmxSLi/6
  9aHe6JZuTcQiNayqn3qNjalRzPLgz57LfWRFwkirR4O70aqVYaSAK1vst2te8Ugw
  owfyXo6mDnTzIXSyZLZSPE+maiZtQ9s3v7oTXfbJmVpuiKqX57K5wwbKdKrZqqU+
  CebQtPKxSyg2HeW6ZIJrL1GVkeo6qlXdQiSWNNKIIqB3hCvwirdQ8/waVI7h9caM
  1kW1Z+fmUD73EXyP3tDqhxkQm6raCzhYixUIB3K2TKvV3MIXzWhCHh6BOPxI8zhl
  7k822+CkSaXy0lV7UzneTKMWMdifYja/AxO7aHbVnPWW3V8yjDO1AeA6hWKqolbH
  wzNTrHhyzg/jMp0OF1lB6mqqr2k+Lvgfmu1mzaNqpBTSqtTw4Z85YIfkm97vzXey
  HTbBgC6jUElHV3/PquDCV0/EQWdHC/nzszR+Z09R+apzDd2PXOhS80NcDSzVeVSe
  F5y+8ClnnUzSxusNMwaHl4/YidNSqWEGZICMUJsYhaUB24rNNrsqpVbSQxzxvlOs
  B42z69AhWR9T2TzskOAHgzQJ8sLxIedHg3QEzr/T1iMt1i7N4C674c3o8E/9HABa
  ZJg71WBpf2057KuOrn7WOUEZ/4lq8reHflczbVsHan8oM4EDZOPo1vi4+A3jLj+G
  AZSgkAUBS32f1LUvw/dIqcU/1HyQkYQzbP7O1vYX4xhnUevJ/9F1db1RXVf0fST+
  w+2NEFiyPaFUVcHDRMaQhofGqCJK+lRdz4cZGPvSuWNsvwUIlKYlaaSmqlDVqmoa
  XIsQPuoCJsb/wMJv/Jyevfbe5+xz7lRIZjy+n+eee84+a6+91sHXB6/cv+cHewcv
  D3YPHh7eJjVgYOacB9kF0r0PBPwFEPin0DoGwu7+/xMyFYTkQ+83zneI5u9z/iv2
  /gsUgklPeA85gb8hi7CDv3LGghWVofmM/+PtLQIvesqigfvi8A7yGJQd2JHsxI5k
  BV7jCr48vC06vKwaTTmYfegN32I1W3f9cn+HX8j97SFfAqVst8dO3B7Yeg/Xyu2z
  k2RHHgd032jiiS6ZwbXvENItuLJB/Omnx6+fmEzCLVJqe7sl+z97+5I08/h4b78j
  lTKcIWiT8V6fe62+u9B707/j/NDb29Y8QqRz9i93BZ/xN8k1Bs07Od+oXCrH1qzF
  5/I5l5u3Qw2lCJa10jkKYxxIbjLSpS9VywtDEVumdJMrtH7Mu1/xOGwAxfRFalmn
  EBR/M2IA0gt/ZBI8uDqrgqwJkqur0TwZ3gJ3zjP01ykl2gsDPlzny1W8wniZ1d0z
  O0+WkiM3Is5Gyg1HGhHSQrXKrTgzSrOOYs7ShFHYQpR4v4s8mFztcfz/FkTioUef
  i7J6Y60kt0UjjT5kLA10QKld0GjmTD5PpnnT2Qe94XXUu07judgsSIAwZOdQxI6V
  v5tshPPvfhA00m5FERq5PiXcZLJBI3TT1wDVEhXHWsKGPpOvjfszP8vbjcDS9ITE
  671iaGBJgrH4aWZVD+h4OttlaTgEoo/ieuCY2HIqunRicPTZcomngbjyBoQEUzRu
  6lbBu+sPNvJ28miPNKjUpjfTJV92FsZgLJjujCZUYjL2M8ZRF1zE5SatoiJX+V52
  dTAkZs2IpAST0JG5Rp2x7zFeD0lBuIuXS0BY2bw45qqDh799yQkM/b2c7a1eKci5
  hNTdrroLcX/tzVCIRa22XKz0ZPwIlTxu44/ZAEoctNRDKdPg4OKoBAnr5+6X1SWq
  GLZCOEqYBSsH6khgvBgpMKZFgZ1i3VRF2U1zI7rkCPi4YmpKwVRySIju/dAHTLFq
  ammabw+xlaIYC+hjFZdCETOII9QAY0JCYo3K8qhUYtCpIuUvYKZC9mbzpmK5lPf4
  iL7IR9KwoEH8scwaPbs+M53ZESGShaKz/GLglkJUyJt9jExmFWogZCwMNDTpByaY
  4aEt0g9De5RMhyOTJIDnZOvED1GEKlWYwlCZ4iXErAvtOqCKqRnSoCqHvioGzGBb
  /K2A5qKLiL3YiVS5Bu/zAfkvKh+F1QO41sYf1Fpgox56BZy8wdiXFVgjXnHScd1E
  HDaZtOiLVprk4Ei+a704KTWfDtLRDjQrdsgUiXjP2rXH6+WMi3lH3pjx3JrY4RFT
  i1wJu/oFHW40KLtxIUPGDRQvrEQfT/J2w81IlFDFsbzyJE27MCYcmfEj0q8DAxe9
  h/FyNHWkuUl5C78wKZYqEk5wa7J0EPYg92nFw+fMqpQXSnNXig33vi9Vgic0T8yG
  FJVWG/HDMDh3U15rG/4gBKFRfgZCJGdyN55fLzpu+QUWMU1/veP50ZMLpszvWO2a
  24vG9w0mmtNmJcix0o9bgTypc6kR3XCL4mJ82k1obt4iPpq+hLV3v1ELyKp6A9no
  ibVzslrPC+xMdXjMszRQy2srSqNrJqeny/pJc1i6cVmqJ7umg3KHDJWAGhVAzW64
  acQ41Ccx1GHN1YJAmyhnvlskbojtqYai6G5CZIGr0eJUEM3DPr7woWoWJVR4rQvJ
  MbZQxYq99aNziwuXfnXxfKaPwor28M+8nWJS0QMGqhLz/ehkZ2qBBvHpVGxzbUhV
  pcng4saKuOqJnusHxchdb9ciOiGokqppDpWpvlbBgMUNsvay07ZE5Vd7m+AKuDdG
  7sL0NLNSkPrMPpQmhqaG2PZwDs+zWtge12SguqM20czWZu+4lgIj+pD6ydAk14m5
  il7vVT8oJowrG1U5KtSd6KTG1mH9sQgVqiJVZr1AQ3hhK9y4gC56RSlg7MRsUa4R
  tFvRcy+yFGO6VLvm2rpmHPjFBET1RuVIRHzcRDxcqyAgERVfAn2x7my82nNdjUuE
  vfbNwoV5gZved31lqSyvem5AUMpY5Z5T+Nyt1l2HQRllr70VU70Ppa3xkPCzDjvG
  cvLb3YnCR9P6LMRb2HDVeRSohPG/OB4b18h2bYicX82SVLsRO/Fyn7SAWRuFkGCh
  XOUu7cIEXgxTb1l2Uc5aJaV41UUi+5Jux3JIiFtWtdcPIjmXQDBgksBKqM6xmdAM
  C4Kie6UAp8b3MeBeESDsgvxKBIi86qnRhGWlG3dcDLQ+MX+ZhUlVoRz1jMKU8HDr
  OUIeEUNpLbaXBc64QlVljWylklaRBkViDiKtbgLhkeXIomooHeOjcwFWB7Ih3IFd
  9xhB4pcEDpV2Fi0K/Gvl0UaKbqg5S+b8uP7laTBZ8f/mwbBSisLadddqVaKF4N5T
  4TsZhsrZkkZeEoQR9bwqqSFzSzpDCZSemdTCU2DONZT0fMsxFX9U6rapEkykz2N0
  37FOiKt/Wbg7XWf6c5OCwMbstcvXEq6d6321gbYR1DFV+qggca4SQ4SsdWOUlmwd
  Y445alFFCCrE8ZdshQPuXel1OZ88n5oLMj4D1pftRVQ7NDEm1cxKxEmZFiAZ1lZ7
  dy5LklGxPgn6IWZYrPWaGzOECJuTyHPMast5+1dG0Xz6wX/gMRPXc20ATZc3Xx1+
  /uYVcZfhF8Y+Zek337ALGJjkdwjfFWe33cSFTV3tBOOMvzn8UlDVZ+LwRrgq4br7
  +F2Q4TdPsOc+s8rBp/4BnxjlfezOx2jsc7DKBWMGw1t43XJ2RpRfwdePfc347MT7
  3pW7SK6HMGUguHuCGP/h8Aswz2+DN/9CsF5ytnsiaPIe2N978Gjbwfn5Tmkb5uHr
  N7t8F+LSRmf/I7bfhafcHrn8Id96TwkDjzUhexcZ1RvITT9Ftpfzy57AYHzHxMLp
  tu7yraZrX2p6/Z5mqzml+w/jdfWtYQJwvts6cCk7gr7XvSjvfB+f/y4sDvESYsbF
  fZP8vWnS7lu4hhvG/ee1uS/PlvF38UKP8xV2eareZ1tKDnmsvIJPcfzHkjcXLgHz
  atgW5zuliPygt3kXu9i9uGVMO0sbbusuxoUncAzuaT7dkiv2DXNjWxv5d/ogXhp+
  jmnDQCDxXAJLBXmtj17ZCIGN89dAIYg8724YFsp/DXPmn9pi+/p0nispwpCLIqbH
  PfXA2saHfTBMXot/U7jam+qmx+yR+zE15alu/AA73gx3Gs61rU/ka+z1SAgqYsbH
  HeyBtskjdeDipvtGbbbU003O/ijqveJndxct+SmIK0xj+L2Sgtjkjq/nz6b97+jl
  /Vb7s2/nh8JLCbSiH7T3bunrs6UWVL6PKesmfMOPacu08044DpND5L3Y0jfOG29t
  4Qq/N2ZwcAykXx/549TzSFFtSqhIueW22kI1x7avalA3I9rmpfv/+8idJ3yjPk1p
  fujfUidyFxmq/yBLxUemmpYtOBbJ9ajHkfnmGbJdn/nM1ENc1w2q5hAfnwfpubDt
  jn4yC0qFYNZPzpaj5eaJU6dONTcg4kNrhBQUwrKX/jqX+VRADYVR1Sbjz5GTeouq
  fp/Jy34/t5J2IuM3R3YblKpX0r+LWGqAUvZOUh9CYaBNWUkOx0dZ7+STDHxkZ2vo
  IV81WrV8TLN5/sM8sydcJ9GSbu+jX15YoBLTVURLcsIrLurmQ5xOE8/wGE9yKlXH
  ozqZx+OsnJWcNqtHd/X1eBSQyYnrjzajKDRBtDRRgXZnIKo54dnWgSe0BB4yJ4Xe
  azfWa2mQ95LUG7AV5PqjY2W1FevpOt7SAFoYuXuMW3VIKpuMlSRkdgPM6M5x/8ZN
  RRYSrOoQFZxDLyyLJQwCZB8B/rYcWxs6vSaCq2PKMu1sxJe0i2a1XOIJX2cCRM69
  CMtL5OctoIBbSy8To6X2IgxWlFRlljDznaLbW2FcgpkjlUGSlNVjV5Vy+bOu08gi
  4uzmhe7xQXeKleSuKDGblsS6zFBpr6k5UZyJnm09RG9Ez5kxsnYdMVauci9UuQhN
  HMYXooFhPR0kdR1lwPlnfeQYRG4QDCsmWmEsN0Blz5HxA6XiaPW/ujwmYcVzswuz
  9X4/wzoMqgVBwMa0tSZTdY+wKuyacuukbMgkzBTqlAoxyv8p/pjVAciVQRXbs5V9
  r1M1nV2WRWFVRzcX3DC2sjQozMF6G65DiiiKFKesVexOYNpNgMAo+0twTQzaFf0+
  mS6MzQ2Bey5tLK9VAO+MQlwNAldghba7QIdY7Vqqo7xpIQvnV9vWMkBe7kXNXa73
  ltw996AsUlCycTQORYs82xEG5JNuxDNSXNFnW1UEwatcvC/IrrlkoTJZByBRhbfd
  5EO3Hg7Pi9UfbIlTgXGnU1wr1JAkqKBZ4DbqclSawl2uvzZCPzXjWGgvdjGg+g61
  swhDKUFgm64NlkkAjoXN6g+oFaeGPpn5aH7m2uXNitkO3qSGeIBuSqUhTHufx6Y6
  9IcOse2O622E5CiGATQ8eCN8j5WocnicS2rOfERDrjwW/mEgkqyuRtCYotcE6Qw8
  xw55C45IKILa5ejJ80dPLkgfc7/kU1NzKSJFM2QkUqgYtutWv07qHlN+LdEsk0Ea
  1Mt6nu2TGdKRPefepONTNGhfGqy4T1kdgsmjaUUiixAhhZgnKciFK52/BxMaQapW
  3y4Zz3W7Y6YN4tJZ4Rt7Oo7J4k0ImQSht+PTWAMke2aRZo1DEXLWW78EjeGCputN
  6XoLvjQST8D63enAE5Fv5USxdocU9SQ8Z5GtWB4VK+C/eAaENThS8pI/XmBbRIW1
  ut2EGbs+ff4mb00IaMx05GPUKH8hW3MrJ0/qp+0W3ajtwqooZ3sggrqkEjvlW6M+
  N6tnkvMJ8+aE6C3nZzmOnmU1IfI70qhfX3tSx5fBQA3pyH9sbsKkERTDgmGKd65S
  d5IBmRmIbYPlYDPnPyJYJZnPFv2M3CQkL8b3E6sfm1fvejnoHn93ai6PFMd9qXN9
  qRZyDmHobk8IuWP+IX9KKtRBLmEOFDxHWfOO7tcoW+nL0KqDzB3JatPMMRz00bzT
  kQ+iklHqQ1gWNChpOw4PuoP/1XU9v20VQfhc/xWLOTgRtZ2onKhtiaRCgAqqwBVI
  nCJiWlMnrfwcWqnikLpUQlUoBywjDjQlRRRDkRV+vUgUS/APtDeO9gWJ/4KdmZ19
  s7vjSxw/v5/7dme+2e+b2Ws9KizqK9hkRV2f4nmxY0T6N6O0gSOvM8Y4yC8q8DFY
  7UpAt2C5LqrxlUR0tJQast3+P7l0E69KYXvwIGZWLMa9Qj2x6FvbvFiEs19edMYL
  Irk29Wv1iP0crxWER1GCNEoJ8J1+BDoiKIPcgepIGSG7a8B3+kpXKz5ALmII0Vae
  ES2qYBf4SHlFLaMEkKjBIVECCofg3mj5slAOgT0SlwUq9JVidSrEK9e7GWjpkE3H
  YcjpyWBfoouHiZc0Lmn9sA5yit1tej73QPDFs46eVRMOAl7I1R3bcwXwCpZLdG/g
  A8W+oB7TLQvl9EFYTH/v0t7fk8ysELe+t8r1cJ6Nnz55to9sxxQ5hGjb00NkDfax
  RhBxIycxd0EKc3vMbWQB/mA+xZ6PWZCCQ3hCNYOYfYDaOumxTisfbzskFsWeFzTs
  udfoEx/yq6/Kk57vM7pfuOOi1o69PlUHmuI2rIfD9U1wzu9HXHn9jptf+8XNFA6F
  dvwWbfvnMWwLfdTF9itgSzJCX9ZQilyYMHXXLccaWB3uTVjWpGkq2NfY2CdmBxBV
  NJNFs0OZhrPKmjMQGvHCJHk0UhJwBIdbPPwaGkjhHwOEU2SFcCUwi7gSzAgnNlCD
  vPv+lcDLrTCyFcD2Y1EwlJFO2VxA6F7JZFxljAbIY6CNaD5x05SSErgu+ohtu9gz
  +vs81P2E4XjTDuWqS9sqaRiXita0wuI15Lyi6QjetST3jSBFqfFctfpeWMDj5W4f
  7qRVUlpEQ6bX5/nhPD+e59/D35Pb83w8z79ZDL9dDD9fDA8Xw/FieLQYfrUYfvnv
  46P/fvjCp5yf7Ntvq8yLTZm8IJbhAc7bf+ooMEf0MGvjMi4PmG7zWaURg+PpCU8K
  +CzUCSeB5o6FhKNGRaJokTvsM4t98uxY0DcRIXiXk6BnzGF9zbf3CeeTTgXJ6LOG
  PV/5iBN+JXGzn6Rmj1yGqSPFJJ8VpWk/5GTeA5e07trkEebPzvinCRNkI95zxpTf
  fXE4tc8tvGe5ccLZu2EWvLvbqWAhHwqGyL93OuqID/yJW9Ve/UGwcKmPglM1IegP
  BIwQaWlJt4cPF53ECAKKrYjLcP4NGqw4vtS8frkV20AaLsq8/I2dnti3MGZReSm2
  nqImjYhmrBdQMJSGh+uteEqDopqabrlFxFkMemlIC+ua6i/BfEZhqMsGFdZdhHjV
  ev2dM5v1+rn2OfPuq+03zpv12poJgy6ekYkCHlcqy96uq9OEoRvkSNiGKgXekw8p
  ZjJet43+tmt0rR2zjUta/GeixnIRLV6lEr3NSjoHhQKi8AzuvRrVZTUrLygMVEN1
  mSUgek6bAVTuhEc/jdSbyPoS6WhhHjn3M9X06wMgdGceIGgzRfbN97tbVXoF9sn7
  ezZQ+uv3BrV9PA56zbWzlIcu4NFNEfhj137JQGUktaNePnVKm0/bGsAK8vGdtFT3
  rz6F7lc7ajM0++rlOk0NrEg0vn3VbPQtSO+tilqLOdZtJC3PMWqCACP/Vuh3grqT
  x5yNibmXP1P1SKFpUs5gt8IZ7lF9SFD4UO5paD3NhYsb51/bNOXdQbUdFTKA15fO
  qWzC7zAb42Rnkl8lS2wN4W4m2143B237lWznenUQnFBA2/Zbbpe6gpDtaDwrMyCF
  a8GposGbdpDVKG9lA+Wvqv3Y3fowS/usPZMPZ1drqId3nTfFsHgA9uHU16Szjviz
  NtNlo1vhFSSob+jeIp21wpsSPkSW3FM0AThKdEuZzo5gI2/V1GBFbdadzmX9Md0K
  UXFvkf0Eu8mLtbV10w69vyccl1yzseT1lI3uwZSHR9qzqbbhYKVidL+wpL3K2zqI
  yUAZ3FPkEOnz09ho6PAE+GT1BxxLtbSlk7HsRn4EI7xzXPIKS0uas6HZaXiuJc3W
  QnXmPWGhnPUiDSbnzruov1A+5k5F6fPQQX2JtnKGikZ/Htaa5QxXPVofsdprLGRl
  eahxuyuqwhC6/04Il7wibyYK/MzcORU4T4HLCEtMkW5rylqt+1qcMQkjoQMu8vQn
  Kr/yEN077dj/
  "

end Courier.Compression.Brotli
