/-! Powers of whole numbers. They are those of the core library, whatever else a module imports, so that
    all modules compute with the same ones and rewrite them alike. -/

attribute [instance (2000), default_instance (20000)] instPowNat
